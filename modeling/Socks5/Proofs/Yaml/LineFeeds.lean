import Mathlib.Data.List.SplitBy
import Socks5.Proofs.Text.Numeral
import Socks5.Yaml.Layout

/-!
# Line breaks of written documents

No carriage return stands in the text of a document: one that a scalar holds is written as an
escape, and lines are ended in other ways. So nothing changes when all line breaks of the text are
read as line feeds.
-/

namespace Socks5.Yaml

variable {cs : List Char}

/-! ### Characters -/

lemma not_mem_of_needsEscape (h : cs.any needsEscape = false) : '\r' ∉ cs := fun hmem => by
  have hescape : cs.any needsEscape = true := List.any_eq_true.mpr ⟨'\r', hmem, by decide⟩
  rw [h] at hescape
  cases hescape

lemma not_mem_of_fitsPlain (h : fitsPlain cs = true) : '\r' ∉ cs := by
  refine not_mem_of_needsEscape ?_
  simp only [fitsPlain, Bool.not_eq_true', decide_eq_false_iff_not, not_or] at h
  exact Bool.eq_false_iff.mpr h.2.2.2

lemma not_mem_of_fitsSingle (h : fitsSingle cs = true) : '\r' ∉ cs := by
  refine not_mem_of_needsEscape ?_
  simp only [fitsSingle, Bool.not_eq_true', decide_eq_false_iff_not, not_or] at h
  exact Bool.eq_false_iff.mpr h.1

lemma not_mem_of_fitsBlock (h : fitsBlock cs = true) : '\r' ∉ cs := by
  refine not_mem_of_needsEscape ?_
  simp only [fitsBlock, Bool.not_eq_true', decide_eq_false_iff_not, not_or] at h
  exact Bool.eq_false_iff.mpr h.2.2.1

/-- Only in double quotes a scalar may hold a carriage return. -/
lemma not_mem_of_style {isKey : Bool} {t : Tag} {style : Style} (hne : style ≠ .double)
    (h : Style.ofChars isKey t cs = style) : '\r' ∉ cs := by
  subst h
  unfold Style.ofChars at hne
  dsimp only at hne
  split at hne
  · split at hne
    · next hblock => exact not_mem_of_fitsBlock hblock.1
    · exact absurd rfl hne
  · split at hne
    · next hplain => exact not_mem_of_fitsPlain hplain.2.1
    · split at hne
      · next hsingle => exact not_mem_of_fitsSingle hsingle.1
      · exact absurd rfl hne

/-! ### Pages -/

namespace Page

variable {p : Page}

/-- No carriage return was written. -/
def Clean (p : Page) : Prop := '\r' ∉ p.reversed

lemma Clean.write (h : p.Clean) (hcs : '\r' ∉ cs) : (p.write cs).Clean := by
  simp only [Clean, Page.write, List.reverseAux_eq, List.mem_append, List.mem_reverse, not_or]
  exact ⟨hcs, h⟩

lemma Clean.mark (h : p.Clean) (hcs : '\r' ∉ cs) (isApart isFresh : Bool) :
    (p.mark cs isApart isFresh).Clean := by
  simp only [Clean, Page.mark, List.reverseAux_eq, List.mem_append, List.mem_reverse, not_or]
  exact ⟨hcs, h⟩

lemma Clean.breakLine (h : p.Clean) {c : Char} (hc : c ≠ '\r') : (p.breakLine c).Clean :=
  List.not_mem_cons_of_ne_of_not_mem hc.symm h

lemma Clean.setApart (h : p.Clean) : p.setApart.Clean := by
  unfold Page.setApart
  split_ifs
  · exact h
  · exact List.not_mem_cons_of_ne_of_not_mem (by decide) h

lemma Clean.indent (h : p.Clean) (column : Nat) : (p.indent column).Clean := by
  have hspaces {p : Page} (h : p.Clean) :
      '\r' ∉ List.replicate (column - p.column) ' ' ++ p.reversed := by
    simp only [List.mem_append, List.mem_replicate, not_or]
    exact ⟨fun hmem => absurd hmem.2 (by decide), h⟩
  have hline := h.breakLine (c := '\n') (by decide)
  unfold Page.indent
  dsimp only
  split_ifs
  · exact hspaces hline
  · exact hline
  · exact hspaces h
  · exact h

/-! ### Scalars -/

lemma not_mem_runs {run : List Char} {r : Char → Char → Bool} (hcs : '\r' ∉ cs)
    (hrun : run ∈ cs.splitBy r) : '\r' ∉ run := fun hmem => by
  rw [← List.flatten_splitBy r cs] at hcs
  exact hcs (List.mem_flatten.mpr ⟨run, hrun, hmem⟩)

lemma Clean.plainRuns (mayFold : Bool) (column : Nat) {runs : List (List Char)}
    (hruns : ∀ run ∈ runs, '\r' ∉ run) : ∀ {p : Page}, p.Clean →
      (p.plainRuns mayFold column runs).Clean := by
  induction runs with
  | nil => exact id
  | cons run rest ih =>
    obtain ⟨hrun, hrest⟩ := List.forall_mem_cons.mp hruns
    intro p h
    unfold Page.plainRuns
    split_ifs
    · exact ih hrest (h.indent column)
    · exact ih hrest (h.write hrun)

lemma Clean.foldBreaks {run : List Char} (hrun : '\r' ∉ run) : ∀ {p : Page}, p.Clean →
    (run.foldl (fun p c => p.breakLine c) p).Clean := by
  induction run with
  | nil => exact id
  | cons c rest ih =>
    rw [List.mem_cons, not_or] at hrun
    exact fun h => ih hrun.2 (h.breakLine (Ne.symm hrun.1))

lemma Clean.breaks (h : p.Clean) (column : Nat) {run : List Char} (hrun : '\r' ∉ run) :
    (p.breaks column run).Clean := by
  unfold Page.breaks
  dsimp only
  split_ifs
  · exact (Clean.foldBreaks hrun (h.breakLine (by decide))).indent column
  · exact (Clean.foldBreaks hrun h).indent column

lemma Clean.singleRuns (mayFold : Bool) (column : Nat) {runs : List (List Char)}
    (hruns : ∀ run ∈ runs, '\r' ∉ run) : ∀ {isFirst : Bool} {p : Page}, p.Clean →
      (p.singleRuns mayFold column isFirst runs).Clean := by
  induction runs with
  | nil => exact id
  | cons run rest ih =>
    obtain ⟨hrun, hrest⟩ := List.forall_mem_cons.mp hruns
    have hdoubled : '\r' ∉ run.flatMap fun c => if c = '\'' then ['\'', '\''] else [c] := by
      rw [List.mem_flatMap]
      rintro ⟨c, hc, hmem⟩
      split_ifs at hmem
      · simp at hmem
      · rw [List.mem_singleton] at hmem
        exact hrun (hmem ▸ hc)
    intro isFirst p h
    unfold Page.singleRuns
    split_ifs
    · exact ih hrest (h.indent column)
    · exact ih hrest (h.breaks column hrun)
    · exact ih hrest (h.write hdoubled)

lemma not_mem_upperHex (width n : Nat) : '\r' ∉ upperHex width n := by
  unfold upperHex
  simp only [List.mem_append, List.mem_replicate, List.mem_map, not_or]
  refine ⟨fun hmem => absurd hmem.2 (by decide), ?_⟩
  rintro ⟨c, hc, hupper⟩
  obtain ⟨d, hd, rfl⟩ := Text.exists_of_mem_toDigits (by decide) n hc
  revert hupper
  interval_cases d <;> decide

lemma not_mem_escapeOf (point : CodePoint) : '\r' ∉ escapeOf point := by
  unfold escapeOf
  split
  · next l hfind =>
    have hmem := List.mem_of_find?_eq_some hfind
    have hletters : ∀ e ∈ escapeLetters, '\r' ∉ ['\\', e.2] := by decide
    exact hletters _ hmem
  · split_ifs <;> simp [not_mem_upperHex]

lemma Clean.doublePoints (mayFold : Bool) (column : Nat) (t : Text) :
    ∀ {isFirst : Bool} {waiting : List Char} {p : Page}, '\r' ∉ waiting → p.Clean →
      (p.doublePoints mayFold column isFirst waiting t).Clean := by
  induction t with
  | nil => exact fun hwaiting h => h.write (by simpa using hwaiting)
  | cons point rest ih =>
    intro isFirst waiting p hwaiting h
    have hfold {p : Page} (h : p.Clean) {waiting : List Char} (hwaiting : '\r' ∉ waiting) :
        ((p.write (waiting.reverse ++ ['\\'])).indent column).Clean :=
      (h.write (by simpa using hwaiting)).indent column
    have hescape : (p.write (waiting.reverse ++ escapeOf point)).Clean :=
      h.write (by simp [hwaiting, not_mem_escapeOf])
    unfold Page.doublePoints
    dsimp only
    split
    · next c hc =>
      have hc : c ≠ '\r' := by
        rintro rfl
        cases (Option.filter_eq_some_iff.mp hc).2
      split_ifs
      · exact ih (by simp [hc.symm]) ((hfold h hwaiting).write (by decide))
      · exact ih (by simp [hc.symm]) (hfold h hwaiting)
      · exact ih (by simp [hc.symm, hwaiting]) h
    · split_ifs
      · exact ih (by simp) ((hfold hescape (by simp)).write (by decide))
      · exact ih (by simp) (hfold hescape (by simp))
      · exact ih (by simp) hescape

lemma Clean.blockRuns (column : Nat) {runs : List (List Char)}
    (hruns : ∀ run ∈ runs, '\r' ∉ run) : ∀ {p : Page}, p.Clean →
      (p.blockRuns column runs).Clean := by
  induction runs with
  | nil => exact id
  | cons run rest ih =>
    obtain ⟨hrun, hrest⟩ := List.forall_mem_cons.mp hruns
    intro p h
    unfold Page.blockRuns
    split_ifs
    · exact ih hrest (Clean.foldBreaks hrun h)
    · exact ((h.indent column).write hrun).breakLine (by decide)
    · exact ih hrest ((h.indent column).write hrun)

/-- A scalar without carriage returns, or in double quotes. -/
lemma Clean.scalar (h : p.Clean) {style : Style} (mayFold : Bool) (column : Nat) {t : Text}
    (ht : style ≠ .double → '\r' ∉ t.filterMap CodePoint.char?) :
    (p.scalar style mayFold column t).Clean := by
  cases style with
  | plain =>
    have hcs := ht (by decide)
    simp only [Page.scalar, Page.plain]
    split_ifs
    · exact h
    · exact Clean.plainRuns mayFold column (fun run hrun => not_mem_runs hcs hrun) h.setApart
  | single =>
    have hcs := ht (by decide)
    exact (Clean.singleRuns mayFold column (fun run hrun => not_mem_runs hcs hrun)
      (h.setApart.mark (by decide) _ _)).mark (by decide) _ _
  | double =>
    exact (Clean.doublePoints mayFold column t (by simp)
      (h.setApart.mark (by decide) _ _)).mark (by decide) _ _
  | block =>
    have hcs := ht (by decide)
    exact Clean.blockRuns column (fun run hrun => not_mem_runs hcs hrun)
      ((h.setApart.mark (by decide) _ _).breakLine (by decide))

end Page

/-! ### Nodes -/

namespace Node

variable {p : Page}

mutual

/-- No carriage return stands in a tag of a node, or of what is in it. -/
def Clean : Node → Prop
  | scalar t _ => '\r' ∉ tagText t
  | sequence t items => '\r' ∉ tagText t ∧ AllClean items
  | mapping t entries => '\r' ∉ tagText t ∧ EntriesClean entries

/-- All of these nodes are like that. -/
def AllClean : List Node → Prop
  | [] => True
  | n :: rest => n.Clean ∧ AllClean rest

/-- All of these entries are like that. -/
def EntriesClean : List (Node × Node) → Prop
  | [] => True
  | (k, v) :: rest => k.Clean ∧ v.Clean ∧ EntriesClean rest

end

lemma allClean_iff {items : List Node} : AllClean items ↔ ∀ n ∈ items, n.Clean := by
  induction items with
  | nil => simp [AllClean]
  | cons n rest ih => simp [AllClean, ih]

lemma entriesClean_iff {entries : List (Node × Node)} :
    EntriesClean entries ↔ ∀ e ∈ entries, e.1.Clean ∧ e.2.Clean := by
  induction entries with
  | nil => simp [EntriesClean]
  | cons e rest ih => simp [EntriesClean, ih, and_assoc]

lemma EntriesClean.insertSorted {e : Node × Node} {entries : List (Node × Node)}
    (he : e.1.Clean ∧ e.2.Clean) (h : EntriesClean entries) :
    EntriesClean (insertSorted e entries) := by
  induction entries with
  | nil => exact ⟨he.1, he.2, h⟩
  | cons f rest ih =>
    obtain ⟨hk, hv, hrest⟩ := id h
    unfold Node.insertSorted
    split_ifs
    · exact ⟨he.1, he.2, h⟩
    · exact ⟨hk, hv, ih hrest⟩

/-- The order of entries is of no account. -/
lemma EntriesClean.sorted {entries : List (Node × Node)} (h : EntriesClean entries) :
    EntriesClean (sorted entries) := by
  have hfold : EntriesClean (entries.foldr Node.insertSorted []) := by
    induction entries with
    | nil => exact trivial
    | cons e rest ih =>
      obtain ⟨hk, hv, hrest⟩ := h
      exact (ih hrest).insertSorted ⟨hk, hv⟩
  unfold Node.sorted
  split_ifs
  · exact hfold
  · exact h

lemma clean_putMark (h : p.Clean) (cs : List Char) (hcs : '\r' ∉ cs) (isApart isFresh : Bool) :
    (putMark cs isApart isFresh p).Clean := h.setApart.mark hcs isApart isFresh

lemma clean_putTag (h : p.Clean) {t : Tag} (ht : '\r' ∉ tagText t) (isImplicit : Bool) :
    (putTag isImplicit t p).Clean := by
  unfold putTag
  split_ifs
  · exact h
  · exact clean_putMark h _ ht false false

lemma clean_putEmpty (h : p.Clean) {opening closing : Char} (hopening : opening ≠ '\r')
    (hclosing : closing ≠ '\r') : (putEmpty opening closing p).Clean :=
  (clean_putMark h [opening] (by simpa using hopening.symm) _ _).mark
    (by simpa using hclosing.symm) _ _

lemma clean_putScalar (place : Place) (column : Option Nat) {t : Tag} (text : Text)
    (ht : '\r' ∉ tagText t) (h : p.Clean) : (putScalar place column t text p).Clean := by
  have hstyle (hne : Style.choose (place = .key) t text ≠ .double) :
      '\r' ∉ text.filterMap CodePoint.char? := by
    unfold Style.choose at hne
    cases hchars : text.chars? with
    | none =>
      rw [hchars] at hne
      exact absurd rfl hne
    | some cs =>
      rw [hchars] at hne
      rw [Text.chars?_eq_some_iff.mp hchars, Text.ofChars, List.filterMap_map]
      have hself : (CodePoint.char? ∘ CodePoint.char) = some := rfl
      rw [hself, List.filterMap_some]
      exact not_mem_of_style hne rfl
  exact (clean_putTag h ht _).scalar _ _ hstyle

mutual

lemma clean_put (place : Place) (column : Option Nat) (n : Node) {p : Page} (hn : n.Clean)
    (h : p.Clean) : (put place column n p).Clean := by
  match n with
  | .scalar t text => exact clean_putScalar place column text hn h
  | .sequence t items =>
    obtain ⟨ht, hitems⟩ := hn
    have htag := clean_putTag h ht (t = .seq)
    simp only [put]
    split_ifs
    · exact clean_putEmpty htag (by decide) (by decide)
    · exact clean_putItems _ items hitems htag
    · exact clean_putItems _ items hitems htag
  | .mapping t entries =>
    obtain ⟨ht, hentries⟩ := hn
    have htag := clean_putTag h ht (t = .map)
    simp only [put]
    split_ifs
    · exact clean_putEmpty htag (by decide) (by decide)
    · exact clean_putEntries _ entries hentries htag

lemma clean_putItems (column : Nat) (items : List Node) {p : Page} (hitems : AllClean items)
    (h : p.Clean) : (putItems column items p).Clean := by
  match items with
  | [] => exact h
  | n :: rest =>
    obtain ⟨hn, hrest⟩ := hitems
    have hmark := clean_putMark (h.indent column) ['-'] (by decide) false true
    exact clean_putItems column rest hrest (clean_put .item (some column) n hn hmark)

lemma clean_putEntries (column : Nat) (entries : List (Node × Node)) {p : Page}
    (hentries : EntriesClean entries) (h : p.Clean) : (putEntries column entries p).Clean := by
  match entries with
  | [] => exact h
  | (k, v) :: rest =>
    obtain ⟨hk, hv, hrest⟩ := hentries
    have hline := h.indent column
    simp only [putEntries]
    refine clean_putEntries column rest hrest (clean_put .part (some column) v hv ?_)
    split_ifs
    · exact (clean_put .key (some column) k hk hline).mark (by decide) _ _
    · have hmark := clean_putMark hline ['?'] (by decide) false true
      exact clean_putMark ((clean_put .part (some column) k hk hmark).indent column) [':']
        (by decide) _ _

end

lemma not_mem_render {n : Node} (hn : n.Clean) : '\r' ∉ n.render := by
  have hempty : Page.Clean {} := List.not_mem_nil
  have hline := (clean_put .document none n hn hempty).indent 0
  unfold render
  dsimp only
  rw [Page.chars, List.mem_reverse]
  split_ifs
  · exact (clean_putMark hline ['.', '.', '.'] (by decide) false false).indent 0
  · exact hline

/-! ### Nodes of values -/

/-- The tags of values that only this program knows begin like the others. -/
lemma not_mem_tagText {uri : String} (h : '\r' ∉ uri.toList) : '\r' ∉ tagText (.other uri) := by
  simp only [tagText]
  split_ifs
  · simp only [List.mem_cons, not_or]
    exact ⟨by decide, by decide, fun hmem => h (List.mem_of_mem_drop hmem)⟩
  · simp [h]

lemma clean_ofText (t : Text) : (ofText t).Clean := by
  unfold ofText Clean
  decide

lemma clean_ofInt (n : Int) : (ofInt n).Clean := by
  unfold ofInt Clean
  decide

lemma clean_null : null.Clean := by
  unfold null Clean
  decide

lemma clean_ofIp (ip : Ip) : (ofIp ip).Clean := by
  cases ip with
  | v4 a =>
    refine ⟨not_mem_tagText ?_, clean_ofText _, trivial⟩
    simp [Tag.known]
  | v6 a =>
    refine ⟨not_mem_tagText ?_, clean_ofText _, trivial⟩
    simp [Tag.known]

lemma clean_ofHost (host : Host) : (ofHost host).Clean := by
  cases host with
  | ipv4 a => exact clean_ofIp (.v4 a)
  | ipv6 a zone => exact clean_ofIp (.v6 a)
  | name n => exact clean_ofText _

mutual

lemma clean_ofValue (v : Value) : (ofValue v).Clean := by
  match v with
  | .null | .bool _ | .int _ | .float _ | .text _ | .bytes _ | .date _ | .moment _ | .knot _ _
  | .link _ =>
    simp only [ofValue, ofInt, ofText, null, Clean]
    decide
  | .list items => exact ⟨by decide, clean_ofItems items⟩
  | .tuple items => exact ⟨not_mem_tagText (by simp [Tag.known]), clean_ofItems items⟩
  | .dict entries => exact ⟨by decide, (clean_ofEntries entries).sorted⟩
  | .set items =>
    refine ⟨by decide, EntriesClean.sorted (entriesClean_iff.mpr ?_)⟩
    intro e he
    obtain ⟨n, hn, rfl⟩ := List.mem_map.mp he
    exact ⟨allClean_iff.mp (clean_ofItems items) n hn, clean_null⟩
  | .ip a => exact clean_ofIp a
  | .address a =>
    exact ⟨not_mem_tagText (by simp [Tag.known]), clean_ofText _, clean_ofHost _, clean_ofText _,
      clean_ofInt _, trivial⟩
  | .endpoint a port =>
    exact ⟨not_mem_tagText (by simp [Tag.known]), clean_ofText _, clean_ofIp _, clean_ofText _,
      clean_ofValue port, trivial⟩
  | .named s => exact ⟨not_mem_tagText (by simp [Tag.known]), clean_ofText _, trivial⟩

lemma clean_ofItems (items : List Value) : AllClean (ofItems items) := by
  match items with
  | [] => trivial
  | v :: rest => exact ⟨clean_ofValue v, clean_ofItems rest⟩

lemma clean_ofEntries (entries : List (Value × Value)) : EntriesClean (ofEntries entries) := by
  match entries with
  | [] => trivial
  | (k, v) :: rest => exact ⟨clean_ofValue k, clean_ofValue v, clean_ofEntries rest⟩

end

end Node

/-- No carriage return stands in the text of a value. -/
theorem not_mem_write (v : Value) : '\r' ∉ (write v).toList := by
  rw [write, String.toList_ofList]
  exact Node.not_mem_render (Node.clean_ofValue v)

end Socks5.Yaml
