import Mathlib.Data.List.Forall2
import Mathlib.Tactic.Common
import Socks5.Log.Journal

/-!
# What becomes of a journal that is told something

Records leave handlers and context as they are. A record is refused just if a handler that takes its
level is to say what it is about and the context has no names, whatever the record says and whatever
values were given.
-/

namespace Socks5.Log

/-! ### Contexts -/

namespace Context

variable {c : Context} {names : List Value}

/-- A context has names, under which values can be looked up. -/
def Legible (c : Context) : Prop :=
  ∃ names, c.names = .ok names ∧ ∀ name ∈ names, name.isKey = true

/-- A field with its value, or with a hyphen. -/
def shown (c : Context) (name : Value) : Text :=
  name.plain ++ .char '=' :: ((name.text?.bind fun s => c.given.lookup s).getD (.text "-")).plain

lemma part_of_isKey {name : Value} (h : name.isKey = true) : c.part name = .ok (c.shown name) := by
  simp only [part, valueOf, h, if_true]
  rfl

lemma mapM_part (h : ∀ name ∈ names, name.isKey = true) :
    names.mapM c.part = .ok (names.map c.shown) := by
  induction names with
  | nil => rfl
  | cons name rest ih =>
    obtain ⟨hname, hrest⟩ := List.forall_mem_cons.mp h
    simp only [List.mapM_cons, part_of_isKey hname, ih hrest, List.map_cons]
    rfl

lemma isKey_of_mapM_part {parts : List Text} (h : names.mapM c.part = .ok parts) :
    ∀ name ∈ names, name.isKey = true := by
  induction names generalizing parts with
  | nil => exact List.forall_mem_nil _
  | cons name rest ih =>
    rw [List.mapM_cons] at h
    by_cases hname : name.isKey = true
    · rw [part_of_isKey hname] at h
      cases hrest : rest.mapM c.part with
      | ok parts' => exact List.forall_mem_cons.mpr ⟨hname, ih hrest⟩
      | error f =>
        rw [hrest] at h
        cases h
    · simp only [part, valueOf, hname] at h
      cases h

lemma text_eq (hnames : c.names = .ok names) (hkeys : ∀ name ∈ names, name.isKey = true) :
    c.text = .ok (Text.join " | " (names.map c.shown)) := by
  simp only [text, hnames, bind, Except.bind, mapM_part hkeys]
  rfl

/-- There is a text just of a context with names. -/
lemma text_eq_ok_iff : (∃ t, c.text = .ok t) ↔ c.Legible := by
  constructor
  · rintro ⟨t, ht⟩
    unfold text at ht
    cases hnames : c.names with
    | error f =>
      rw [hnames] at ht
      cases ht
    | ok names =>
      rw [hnames] at ht
      cases hparts : names.mapM c.part with
      | ok parts => exact ⟨names, hnames, isKey_of_mapM_part hparts⟩
      | error f =>
        simp only [bind, Except.bind, hparts] at ht
        cases ht
  · rintro ⟨names, hnames, hkeys⟩
    exact ⟨_, text_eq hnames hkeys⟩

/-- The names do not depend on the values. -/
@[simp] lemma legible_add (values : List (Text × Value)) : (c.add values).Legible ↔ c.Legible :=
  Iff.rfl

end Context

/-! ### What is kept -/

/-- The outputs of a log. -/
inductive Output where
  | console
  | file
  deriving DecidableEq, Repr

/-- The output that lines go to. -/
def Sink.output : Sink → Output
  | console => .console
  | file _ _ => .file

/-- A handler is as it was before, but may put its file aside at another time. -/
def Handler.Kept (h h' : Handler) : Prop :=
  ∃ sink : Sink, sink.output = h.sink.output ∧ h' = { h with sink }

lemma Handler.Kept.refl (h : Handler) : h.Kept h := ⟨h.sink, rfl, rfl⟩

lemma Handler.forall₂_kept_refl (handlers : List Handler) :
    List.Forall₂ Handler.Kept handlers handlers :=
  List.forall₂_same.mpr fun h _ => .refl h

namespace Journal

variable {j j' : Journal} {handlers : List Handler} {r : Record}

/-- Only files and the terminal are other than before. -/
def Wrote (j j' : Journal) : Prop := ∃ files printed, j' = { j with files, printed }

lemma Wrote.refl (j : Journal) : j.Wrote j := ⟨_, _, rfl⟩

lemma Wrote.trans {j₁ j₂ j₃ : Journal} (h : j₁.Wrote j₂) (h' : j₂.Wrote j₃) : j₁.Wrote j₃ := by
  obtain ⟨_, _, rfl⟩ := h
  obtain ⟨files, printed, rfl⟩ := h'
  exact ⟨files, printed, rfl⟩

lemma writeLine_wrote (h : Handler) (line : Except Fault Text) (j : Journal) :
    j.Wrote (j.writeLine h line).1 ∧ h.Kept (j.writeLine h line).2 := by
  obtain ⟨sink, level, formatter, hasContext⟩ := h
  unfold writeLine
  cases sink with
  | console =>
    cases line with
    | ok t => exact ⟨⟨_, _, rfl⟩, .refl _⟩
    | error f => exact ⟨.refl j, .refl _⟩
  | file path rotation =>
    let rotation' := (writeFile path rotation j.clock line j.files).2
    exact ⟨⟨_, _, rfl⟩, ⟨.file path rotation', rfl, rfl⟩⟩

/-- A line that is made of a record leaves everything else in it as it was, also the name of its
level, whether there is a line in the end or not. -/
lemma format_fst (f : Formatter) (r : Record) :
    (f.format r).1 = { r with context := some (r.context.getD "-") } := by
  unfold Formatter.format
  cases f.isColoured <;> rfl

lemma emit_eq (h : Handler) (r : Record) (j : Journal) : j.emit h r =
    ((j.writeLine h (h.formatter.format r).2).1, (j.writeLine h (h.formatter.format r).2).2,
      { r with context := some (r.context.getD "-") }) := by
  rw [← format_fst h.formatter r]
  rfl

lemma emitAll_wrote (handlers : List Handler) (j : Journal) (r : Record) :
    j.Wrote (emitAll r handlers j).1 ∧
      List.Forall₂ Handler.Kept handlers (emitAll r handlers j).2.1 := by
  induction handlers generalizing j r with
  | nil => exact ⟨.refl j, .nil⟩
  | cons h rest ih =>
    unfold emitAll
    split_ifs
    · obtain ⟨hwrote, hrest⟩ := ih j r
      exact ⟨hwrote, .cons (.refl h) hrest⟩
    · cases j.contextual h r with
      | error f => exact ⟨.refl j, Handler.forall₂_kept_refl _⟩
      | ok r' =>
        obtain ⟨hwrote, hh⟩ := writeLine_wrote h (h.formatter.format r').2 j
        simp only [emit_eq]
        obtain ⟨hwrote', hrest⟩ := ih (j.writeLine h (h.formatter.format r').2).1
          { r' with context := some (r'.context.getD "-") }
        exact ⟨hwrote.trans hwrote', .cons hh hrest⟩

/-- Nothing but files and the terminal is other than before, and when files are put aside. -/
structure Keeps (j j' : Journal) : Prop where
  wrote : j.Wrote { j' with handlers := j.handlers }
  handlers : List.Forall₂ Handler.Kept j.handlers j'.handlers

lemma write_keeps (channel : Text) (level : Int) (message : Text) (j : Journal) :
    j.Keeps (j.write channel level message).1 := by
  have hkept := Handler.forall₂_kept_refl j.handlers
  unfold write
  split_ifs
  · exact ⟨.refl j, hkept⟩
  · exact ⟨.refl j, hkept⟩
  · exact ⟨⟨_, _, rfl⟩, hkept⟩
  · obtain ⟨⟨files, printed, heq⟩, hkept'⟩ :=
      emitAll_wrote j.handlers j (j.recordOf channel level message)
    refine ⟨⟨files, printed, ?_⟩, hkept'⟩
    simp only [heq]

/-! ### Refusing -/

/-- A journal refuses records of a level: a handler that takes them is to say what they are about,
and the context has no names. -/
def Refuses (j : Journal) (level : Int) : Prop :=
  0 < level ∧ j.level ≤ level ∧
    ∃ h ∈ j.handlers, h.level ≤ level ∧ h.hasContext = true ∧ ∃ c ∈ j.context, ¬ c.Legible

lemma Refuses.mono {level level' : Int} (h : j.Refuses level) (hle : level ≤ level') :
    j.Refuses level' := by
  obtain ⟨hpos, hlevel, handler, hmem, hhandler, hcontext⟩ := h
  exact ⟨by omega, by omega, handler, hmem, by omega, hcontext⟩

/-- A record is given the context, or goes on as it is. -/
lemma contextual_cases (j : Journal) (h : Handler) (r : Record) :
    (∃ c, j.context = some c ∧ h.hasContext = true ∧
      j.contextual h r = c.text.map fun t => { r with context := some t }) ∨
    (j.context = none ∨ h.hasContext = false) ∧ j.contextual h r = .ok r := by
  unfold contextual
  cases j.context with
  | none => exact .inr ⟨.inl rfl, rfl⟩
  | some c =>
    cases h.hasContext with
    | false => exact .inr ⟨.inr rfl, rfl⟩
    | true =>
      refine .inl ⟨c, rfl, rfl, ?_⟩
      simp only [if_true]
      cases c.text <;> rfl

lemma contextual_error_iff {h : Handler} :
    (∃ f, j.contextual h r = .error f) ↔ h.hasContext = true ∧ ∃ c ∈ j.context, ¬ c.Legible := by
  obtain ⟨c, hcontext, hhas, heq⟩ | ⟨hnone, heq⟩ := j.contextual_cases h r
  · simp only [heq, hcontext, hhas, Option.mem_some_iff, exists_eq_left', true_and,
      ← Context.text_eq_ok_iff]
    cases c.text <;> simp [Except.map]
  · rw [heq]
    obtain hnone | hnone := hnone <;> simp [hnone]

lemma level_of_contextual {h : Handler} {r' : Record} (hr' : j.contextual h r = .ok r') :
    r'.level = r.level := by
  obtain ⟨c, -, -, heq⟩ | ⟨-, heq⟩ := j.contextual_cases h r <;> rw [heq] at hr'
  · cases htext : c.text <;> rw [htext] at hr' <;> cases hr'
    rfl
  · cases hr'
    rfl

/-- A record does not come through just if one of the handlers that it is for cannot say what it is
about. -/
lemma emitAll_error_iff : ∀ {j : Journal} {r : Record},
    (∃ f, (emitAll r handlers j).2.2 = .error f) ↔
      ∃ h ∈ handlers, h.level ≤ r.level ∧ h.hasContext = true ∧ ∃ c ∈ j.context, ¬ c.Legible := by
  induction handlers with
  | nil => simp [emitAll]
  | cons h rest ih =>
    intro j r
    rw [List.exists_mem_cons_iff]
    unfold emitAll
    split_ifs with hlevel
    · have hnot : ¬ (h.level ≤ r.level) := by omega
      simp only [ih, hnot, false_and, false_or]
    · have hle : h.level ≤ r.level := by omega
      cases hcontextual : j.contextual h r with
      | error f =>
        have hrefused := contextual_error_iff.mp ⟨f, hcontextual⟩
        simp only [Except.error.injEq, exists_eq', true_iff]
        exact .inl ⟨hle, hrefused⟩
      | ok r' =>
        have hnot : ¬ (h.hasContext = true ∧ ∃ c ∈ j.context, ¬ c.Legible) := fun hrefused => by
          obtain ⟨f, hf⟩ := contextual_error_iff.mpr hrefused
          cases hf.symm.trans hcontextual
        obtain ⟨⟨files, printed, heq⟩, -⟩ := writeLine_wrote h (h.formatter.format r').2 j
        simp only [emit_eq, ih, heq, level_of_contextual hcontextual, hnot, and_false, false_or]

/-- What was told is refused just if its level is. -/
theorem write_error_iff (channel : Text) (level : Int) (message : Text) :
    (∃ f, (j.write channel level message).2 = .error f) ↔ j.Refuses level := by
  unfold write Refuses
  split_ifs with hlevel hempty
  · simp only [exists_false, false_iff]
    omega
  · simp [List.isEmpty_iff.mp hempty]
  · have hpos : 0 < level ∧ j.level ≤ level := by omega
    simp only [emitAll_error_iff, hpos, true_and]
    exact Iff.rfl

/-- What a journal refuses depends on its level, its handlers and the names of its context. -/
lemma Keeps.refuses_iff (h : j.Keeps j') {level : Int} : j'.Refuses level ↔ j.Refuses level := by
  obtain ⟨⟨files, printed, heq⟩, hhandlers⟩ := h
  have hlevel : j'.level = j.level := (Journal.mk.inj heq).1
  have hcontext : j'.context = j.context := (Journal.mk.inj heq).2.2.1
  have hsame (P : Prop) : (∃ h ∈ j'.handlers, h.level ≤ level ∧ h.hasContext = true ∧ P) ↔
      ∃ h ∈ j.handlers, h.level ≤ level ∧ h.hasContext = true ∧ P := by
    generalize j.handlers = handlers, j'.handlers = handlers' at hhandlers
    induction hhandlers with
    | nil => rfl
    | cons hhead _ ih =>
      obtain ⟨sink, -, rfl⟩ := hhead
      simp only [List.exists_mem_cons_iff, ih]
  unfold Refuses
  rw [hlevel, hcontext, hsame]

lemma write_refuses_iff (channel : Text) (level level' : Int) (message : Text) :
    (j.write channel level message).1.Refuses level' ↔ j.Refuses level' :=
  (write_keeps channel level message j).refuses_iff

lemma addContext_refuses_iff (values : List (Text × Value)) (level : Int) :
    (j.addContext values).Refuses level ↔ j.Refuses level := by
  unfold Refuses addContext
  simp

end Journal

end Socks5.Log
