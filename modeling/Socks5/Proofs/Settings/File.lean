import Socks5.Proofs.Address.Fields
import Socks5.Proofs.Yaml.LineFeeds
import Socks5.Settings.Document

/-!
# Saved files

What was written to a file is what is read from it, octet by octet. A settings file that was saved
holds one document, and all that is left to its reader is to make sense of the text.
-/

namespace Socks5

lemma bind_eq_ok_iff {ε α β : Type} {x : Except ε α} {f : α → Except ε β} {y : β} :
    (x >>= f) = .ok y ↔ ∃ a, x = .ok a ∧ f a = .ok y := by
  cases x <;> simp [bind, Except.bind]

namespace Files

variable {fs : Files} {text : Text} {path : Path} {content : Bytes}

@[simp] lemma isFolder_put (fs : Files) (path : Path) (file : File) :
    (fs.put path file).isFolder = fs.isFolder := rfl

lemma find?_put (fs : Files) (path : Path) (file : File) :
    (fs.put path file).find? path = some file := by
  simp [find?, put]

/-- Only the folders tell whether a folder is there; files tell what is wrong if it is not. -/
lemma checkParent_eq_ok_iff : fs.checkParent path = .ok () ↔
    (List.range path.length).find? (fun n => !fs.isFolder (path.take n)) = none := by
  unfold checkParent
  split
  · next h => simp [h]
  · next h => split_ifs <;> simp [h]

/-- A path that a text spells out is the same when there is one more file. -/
lemma locate_put (h : fs.locate text = .ok path) (file : File) :
    (fs.put path file).locate text = .ok path := by
  have hsame (p : Path) (hp : fs.checkParent p = .ok ()) :
      (fs.put path file).checkParent p = .ok () := by
    rw [checkParent_eq_ok_iff] at hp ⊢
    exact hp
  obtain ⟨_, hcheck, hplace⟩ := bind_eq_ok_iff.mp h
  refine bind_eq_ok_iff.mpr ⟨_, hcheck, ?_⟩
  rw [isFolder_put]
  split_ifs at hplace ⊢
  · obtain ⟨_, -, hkind⟩ := bind_eq_ok_iff.mp hplace
    cases hkind
  · obtain ⟨_, hparent, hpath⟩ := bind_eq_ok_iff.mp hplace
    exact bind_eq_ok_iff.mpr ⟨(), hsame _ hparent, hpath⟩

/-- A file that was written is read. -/
lemma read_of_write {saved : Files} (h : fs.write text content = .ok saved) :
    saved.read text = .ok content := by
  obtain ⟨path, hpath, hsaved⟩ := bind_eq_ok_iff.mp h
  obtain rfl := Except.ok.inj hsaved
  refine bind_eq_ok_iff.mpr ⟨path, locate_put hpath _, ?_⟩
  rw [find?_put]

end Files

namespace Settings

variable {cs : List Char} {fs saved : Files} {path : Text} {v w : Value}

lemma lineFeeds_of_not_mem (h : '\r' ∉ cs) : lineFeeds cs = cs := by
  induction cs with
  | nil => rfl
  | cons c rest ih =>
    rw [List.mem_cons, not_or] at h
    unfold lineFeeds
    split
    · next heq => exact absurd (List.cons.inj heq).1 (Ne.symm h.1)
    · next heq => exact absurd (List.cons.inj heq).1 (Ne.symm h.1)
    · next heq =>
      obtain ⟨rfl, rfl⟩ := List.cons.inj heq
      rw [ih h.2]
    · next heq => cases heq

/-- The text of a document is decoded as it was written. -/
lemma ofBytes_write (hparse : Yaml.parse (Yaml.write v).toList = .ok w) (hw : w.isTrue = true) :
    ofBytes (Bytes.ofText (Yaml.write v)) = .ok w := by
  rw [ofBytes, Bytes.toText?_eq_some_iff.mpr rfl]
  simp only [lineFeeds_of_not_mem (Yaml.not_mem_write v), hparse, hw, if_true]

/-- A file that was saved is loaded as what its text means. -/
lemma load_of_save (h : save fs path v = .ok saved)
    (hparse : Yaml.parse (Yaml.write v).toList = .ok w) (hw : w.isTrue = true) :
    load saved path = .ok w := by
  rw [load, Files.read_of_write h]
  exact ofBytes_write hparse hw

end Settings

end Socks5
