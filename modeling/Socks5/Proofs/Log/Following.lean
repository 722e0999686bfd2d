import Socks5.Proofs.Log.Writing

/-!
# What a log says after calls

The handlers of a journal and the context of its records depend on the calls that were made, and on
the latest ones only: the handlers are those of the latest configuration, and a field has the value
that was given last, unless it was taken back since. Every handler makes its line of the same
record, whatever the handlers before it made of it, and shows the context where its template asks
for it.
-/

namespace Socks5.Log

/-! ### Calls -/

/-- A call that a program makes to its log, or that time passes. -/
inductive Call where
  | configure (settings : LogSettings)
  | add (values : List (Text × Value))
  | clear
  | tell (channel : Text) (level : Int) (message : Text)
  | wait (second : Int)

namespace Call

/-- What a call makes of a journal. Configuring it has to succeed, and so have values to be taken;
what the log is told need not be written. -/
inductive Takes : Call → Journal → Journal → Prop
  | configure {s : LogSettings} {j j' : Journal} (h : j.configure s = (j', .ok ())) :
      Takes (.configure s) j j'
  | add {values given : List (Text × Value)} (j : Journal)
      (h : Context.checked values = .ok given) : Takes (.add values) j (j.addContext given)
  | clear (j : Journal) : Takes .clear j j.clearContext
  | tell (channel : Text) (level : Int) (message : Text) (j : Journal) :
      Takes (.tell channel level message) j (j.write channel level message).1
  | wait (second : Int) (j : Journal) : Takes (.wait second) j { j with clock := second }

/-- The settings that a call brings. -/
def settings? : Call → Option LogSettings
  | configure s => some s
  | _ => none

/-- Whether a call takes the values of all fields back. -/
def takesBack : Call → Bool
  | configure _ | clear => true
  | _ => false

/-- The value that a call gives to a field; of several the last one counts. -/
def gives? (field : Text) : Call → Option Value
  | add values => values.reverse.lookup field
  | _ => none

/-- The settings of the latest configuration among calls, of which the latest is the first. -/
def latestSettings? (calls : List Call) : Option LogSettings := calls.findSome? settings?

/-- The value that was last given to a field, if it was not taken back since. -/
def latest? (calls : List Call) (field : Text) : Option Value :=
  (calls.takeWhile (!·.takesBack)).findSome? (gives? field)

/-- The context of records after calls: the fields with their values, or with hyphens. -/
def contextText (calls : List Call) (names : List Value) : Text :=
  Text.join " | " <| names.map fun name =>
    name.plain ++ .char '=' :: ((name.text?.bind (latest? calls)).getD (.text "-")).plain

/-- What a log of a level prints without handlers: messages of warnings and of what is worse. -/
def bare (level : Int) : Call → Text
  | tell _ l message => if 0 < l ∧ level ≤ l ∧ warningLevel ≤ l then message ++ "\n" else []
  | _ => []

end Call

/-- A journal becomes another one by calls, of which the latest is the first. -/
inductive Runs (j₀ : Journal) : List Call → Journal → Prop
  | nil : Runs j₀ [] j₀
  | cons {call : Call} {calls : List Call} {j j' : Journal} (h : Runs j₀ calls j)
      (hcall : call.Takes j j') : Runs j₀ (call :: calls) j'

/-! ### Lines -/

/-- How a text is written that is shown as it is. -/
def Template.plainly : Conversion := { letter := some (.char 's') }

namespace Record

variable {r : Record} {time : Option (List Char)}

/-- A part of a line about a record stands for a piece of the template: a text for itself, and what
is shown as it is for what the record says. -/
structure Stands (r : Record) (p : Piece) (part : Text) : Prop where
  text : ∀ t, p = .text t → part = t
  context : ∀ t index, r.context = some t →
    p = .conversion (some "context") Template.plainly index → part = t
  levelName : ∀ index,
    p = .conversion (some "levelname") Template.plainly index → part = r.levelName
  message : ∀ index, p = .conversion (some "message") Template.plainly index → part = r.message

lemma lookup_context (r : Record) (time : Option (List Char)) :
    (r.fields time).lookup ("context" : Text) = r.context.map Value.text := by
  cases time <;> cases h : r.context <;> simp only [fields, h] <;> rfl

lemma lookup_levelName (r : Record) (time : Option (List Char)) :
    (r.fields time).lookup ("levelname" : Text) = some (.text r.levelName) := rfl

lemma lookup_message (r : Record) (time : Option (List Char)) :
    (r.fields time).lookup ("message" : Text) = some (.text r.message) := rfl

/-- A field that holds a text is shown as this text. -/
lemma eq_of_fillPiece {fields : List (Text × Value)} {spare : Except Fault Value} {name t : Text}
    {index : Nat} {part : Text} (hlookup : fields.lookup name = some (.text t))
    (h : Template.fillPiece fields spare (.conversion (some name) Template.plainly index) =
      .ok part) : part = t := by
  have hfill : Template.fillPiece fields spare (.conversion (some name) Template.plainly index) =
      .ok t := by
    simp only [Template.fillPiece, Template.fieldOf, hlookup]
    rfl
  exact Except.ok.inj (h.symm.trans hfill)

lemma stands_of_fillPiece {spare : Except Fault Value} {p : Piece} {part : Text}
    (h : Template.fillPiece (r.fields time) spare p = .ok part) : r.Stands p part where
  text := by
    rintro t rfl
    exact (Except.ok.inj h).symm
  context := by
    rintro t index ht rfl
    refine eq_of_fillPiece ?_ h
    rw [lookup_context, ht]
    rfl
  levelName := by
    rintro index rfl
    exact eq_of_fillPiece (r.lookup_levelName time) h
  message := by
    rintro index rfl
    exact eq_of_fillPiece (r.lookup_message time) h

/-- A line is made of parts, one for each piece of its template. -/
lemma parts_of_fillAll {pieces : List Piece} : ∀ {spare : Except Fault Value} {line : Text},
    Template.fillAll (r.fields time) spare pieces = .ok line →
      ∃ parts, line = parts.flatten ∧ List.Forall₂ r.Stands pieces parts := by
  induction pieces with
  | nil =>
    rintro spare _ ⟨⟩
    exact ⟨[], rfl, .nil⟩
  | cons p rest ih =>
    intro spare line h
    unfold Template.fillAll at h
    cases hpart : Template.fillPiece (r.fields time) spare p with
    | error f =>
      rw [hpart] at h
      cases h
    | ok part =>
      simp only [hpart, bind, Except.bind] at h
      split at h
      · cases h
      · next more hmore =>
        cases h
        obtain ⟨parts, rfl, hparts⟩ := ih hmore
        exact ⟨part :: parts, rfl, .cons (stands_of_fillPiece hpart) hparts⟩

end Record

/-- A line shows a record where its template asks for it. -/
lemma Formatter.parts_of_line {f : Formatter} {r : Record} {line : Text}
    (h : f.line r = .ok line) :
    ∃ parts, line = parts.flatten ∧ List.Forall₂ r.Stands (Template.pieces f.template) parts := by
  unfold Formatter.line at h
  by_cases htime : Formatter.asksForTime f.template = true
  · rw [if_pos htime] at h
    cases hdate : r.time f.datePattern with
    | error f =>
      rw [hdate] at h
      cases h
    | ok time =>
      rw [hdate] at h
      exact Record.parts_of_fillAll h
  · rw [if_neg htime] at h
    exact Record.parts_of_fillAll h

/-- A record as a handler shows it, with the name of its level in colour if there are colours. -/
def Handler.seen (h : Handler) (r : Record) : Record :=
  { r with
    levelName := if h.formatter.isColoured then Formatter.coloured r.levelName else r.levelName }

/-- The line that a handler makes of a record. -/
def Handler.lineOf (h : Handler) (r : Record) : Except Fault Text := h.formatter.line (h.seen r)

lemma Handler.format_snd (h : Handler) {r : Record} {t : Text} (hcontext : r.context = some t) :
    (h.formatter.format r).2 = h.lineOf r := by
  have hsame : { r with context := some (r.context.getD "-") } = r := by
    rw [hcontext, Option.getD_some, ← hcontext]
  unfold Formatter.format lineOf seen
  rw [hsame]
  cases h.formatter.isColoured <;> rfl

/-! ### Handlers and what they get -/

end Log

/-- The outputs that are enabled. -/
def LogSettings.outputs (s : LogSettings) : List Log.Output :=
  (if s.toConsole then [.console] else []) ++ if s.toFile then [.file] else []

namespace Log

/-- A handler is one that these settings ask for, with or without colours on the terminal. -/
structure Handler.MadeBy (s : LogSettings) (isTerminal : Bool) (h : Handler) : Prop where
  level : levelOf s.level = .ok h.level
  formatter : Formatter.make s.format Formatter.logDates
    (isTerminal && h.sink.output = .console) = .ok h.formatter

/-- Each handler writes the line that it makes of one and the same record. -/
def Journal.emitEach (r : Record) : List Handler → Journal → Journal × List Handler
  | [], j => (j, [])
  | h :: rest, j =>
    let (j, h) := j.writeLine h (h.lineOf r)
    let (j, rest) := emitEach r rest j
    (j, h :: rest)

/-! ### Configuring -/

namespace Journal

variable {j j' : Journal} {s : LogSettings} {level : Int} {handlers : List Handler}

/-- A handler for one more output was added, as the settings ask for. -/
def Adds (s : LogSettings) (o : Output) (j j' : Journal) : Prop :=
  ∃ handler, j'.handlers = j.handlers ++ [handler] ∧ handler.sink.output = o ∧
    handler.MadeBy s j.isTerminal ∧ j'.isTerminal = j.isTerminal ∧ j'.level = j.level

lemma adds_of_addConsole (hlevel : levelOf s.level = .ok level)
    (h : j.addConsole s level = (j', .ok ())) : Adds s .console j j' := by
  unfold addConsole at h
  split at h
  · cases h
  · next formatter hformatter =>
    cases h
    exact ⟨_, rfl, rfl, ⟨hlevel, by simpa [Sink.output] using hformatter⟩, rfl, rfl⟩

lemma adds_of_addFile (hlevel : levelOf s.level = .ok level)
    (h : j.addFile s level = (j', .ok ())) : Adds s .file j j' := by
  unfold addFile at h
  split at h
  · cases h
  · simp only at h
    split at h
    · cases h
    · next formatter hformatter =>
      cases h
      exact ⟨_, rfl, rfl, ⟨hlevel, by simpa [Sink.output] using hformatter⟩, rfl, rfl⟩

/-- The handlers of a journal are those that settings ask for, one for each output. -/
structure MadeFor (s : LogSettings) (isTerminal : Bool) (outputs : List Output) (j : Journal) :
    Prop where
  each : j.handlers.map (·.sink.output) = outputs
  made : ∀ h ∈ j.handlers, h.MadeBy s isTerminal
  level : levelOf s.level = .ok j.level
  terminal : j.isTerminal = isTerminal

lemma MadeFor.add {isTerminal : Bool} {outputs : List Output} {o : Output}
    (h : MadeFor s isTerminal outputs j) (hadds : Adds s o j j') :
    MadeFor s isTerminal (outputs ++ [o]) j' := by
  obtain ⟨handler, hhandlers, rfl, hmade, hterminal, hlevel⟩ := hadds
  refine ⟨?_, ?_, ?_, hterminal.trans h.terminal⟩
  · rw [hhandlers, List.map_append, h.each]
    rfl
  · rw [hhandlers]
    refine List.forall_mem_append.mpr ⟨h.made, List.forall_mem_singleton.mpr ?_⟩
    rw [← h.terminal]
    exact hmade
  · rw [hlevel]
    exact h.level

/-- The file is the last output, if it is one. -/
lemma MadeFor.addFile {isTerminal : Bool} {outputs : List Output}
    (hmade : MadeFor s isTerminal outputs j) (hlevel : levelOf s.level = .ok level)
    (h : (if s.toFile then j.addFile s level else (j, .ok ())) = (j', .ok ())) :
    MadeFor s isTerminal (outputs ++ if s.toFile then [.file] else []) j' := by
  split_ifs at h ⊢ with htoFile
  · exact hmade.add (adds_of_addFile hlevel h)
  · cases h
    rw [List.append_nil]
    exact hmade

lemma madeFor_of_replaceHandlers (h : j.replaceHandlers s = (j', .ok ())) :
    MadeFor s j.isTerminal s.outputs j' := by
  cases hlevel : levelOf s.level with
  | error f => simp [replaceHandlers, hlevel] at h
  | ok level =>
    have hnone : MadeFor s j.isTerminal [] { j with level, handlers := [] } :=
      ⟨rfl, List.forall_mem_nil _, hlevel, rfl⟩
    simp only [replaceHandlers, hlevel] at h
    -- The terminal comes first, and the file only if that worked.
    by_cases htoConsole : s.toConsole
    · rw [if_pos htoConsole] at h
      split at h
      · cases h
      · next j₁ hconsole =>
        rw [LogSettings.outputs, if_pos htoConsole]
        exact (hnone.add (adds_of_addConsole hlevel hconsole)).addFile hlevel h
    · rw [if_neg htoConsole] at h
      rw [LogSettings.outputs, if_neg htoConsole]
      exact hnone.addFile hlevel h

/-! ### Following -/

/-- The handlers of a journal are those of the latest configuration, and its context has the values
that were last given. -/
structure Follows (calls : List Call) (s : LogSettings) (isTerminal : Bool) (j : Journal)
    (c : Context) : Prop extends MadeFor s isTerminal s.outputs j where
  filtered : ∀ h ∈ j.handlers, h.hasContext = true
  context : j.context = some c
  fields : c.fields = s.fields
  given : ∀ field, c.given.lookup field = Call.latest? calls field

variable {calls : List Call} {isTerminal : Bool} {c : Context}

lemma follows_of_configure (calls : List Call) (h : j.configure s = (j', .ok ())) :
    ∃ c, Follows (.configure s :: calls) s j.isTerminal j' c := by
  unfold configure at h
  split at h
  · cases h
  · next j₁ hreplace =>
    have hmade := madeFor_of_replaceHandlers hreplace
    cases h
    refine ⟨{ fields := s.fields }, ⟨⟨?_, ?_, hmade.level, hmade.terminal⟩, ?_, rfl, rfl,
      fun field => rfl⟩⟩
    · rw [List.map_map, ← hmade.each]
      rfl
    · intro h hmem
      obtain ⟨h₁, hmem₁, rfl⟩ := List.mem_map.mp hmem
      obtain ⟨hlevel, hformatter⟩ := hmade.made h₁ hmem₁
      exact ⟨hlevel, hformatter⟩
    · intro h hmem
      obtain ⟨h₁, -, rfl⟩ := List.mem_map.mp hmem
      rfl

lemma Follows.addContext (h : Follows calls s isTerminal j c) (values : List (Text × Value)) :
    Follows (.add values :: calls) s isTerminal (j.addContext values) (c.add values) := by
  refine { h with context := ?_, given := fun field => ?_ }
  · rw [Journal.addContext, h.context]
    rfl
  · rw [Context.add, List.lookup_append, h.given]
    cases hgives : values.reverse.lookup field <;>
      simp [Call.latest?, Call.takesBack, Call.gives?, hgives]

lemma Follows.clearContext (h : Follows calls s isTerminal j c) :
    Follows (.clear :: calls) s isTerminal j.clearContext c.clear := by
  refine { h with context := ?_, given := fun field => rfl }
  rw [Journal.clearContext, h.context]
  rfl

/-- A call that gives no values and takes none back is of no account. -/
lemma Follows.cons (h : Follows calls s isTerminal j c) {call : Call}
    (hback : call.takesBack = false) (hgives : ∀ field, call.gives? field = none) :
    Follows (call :: calls) s isTerminal j c := by
  refine { h with given := fun field => (h.given field).trans ?_ }
  simp [Call.latest?, hback, hgives]

lemma forall_of_kept {P : Handler → Prop} {handlers' : List Handler}
    (hP : ∀ h h', h.Kept h' → P h → P h') (hkept : List.Forall₂ Handler.Kept handlers handlers')
    (h : ∀ h ∈ handlers, P h) : ∀ h' ∈ handlers', P h' := by
  induction hkept with
  | nil => exact List.forall_mem_nil P
  | cons hhead _ ih =>
    obtain ⟨hfirst, hrest⟩ := List.forall_mem_cons.mp h
    exact List.forall_mem_cons.mpr ⟨hP _ _ hhead hfirst, ih hrest⟩

lemma outputs_of_kept {handlers' : List Handler}
    (hkept : List.Forall₂ Handler.Kept handlers handlers') :
    handlers'.map (·.sink.output) = handlers.map (·.sink.output) := by
  induction hkept with
  | nil => rfl
  | cons hhead _ ih =>
    obtain ⟨sink, hsink, rfl⟩ := hhead
    rw [List.map_cons, List.map_cons, hsink, ih]

/-- What is only written changes nothing of that. -/
lemma Follows.of_keeps (h : Follows calls s isTerminal j c) (hkeeps : j.Keeps j') :
    Follows calls s isTerminal j' c := by
  obtain ⟨⟨files, printed, heq⟩, hkept⟩ := hkeeps
  obtain ⟨hlevel, -, hcontext, hterminal, -⟩ := Journal.mk.inj heq
  refine ⟨⟨?_, ?_, ?_, hterminal.trans h.terminal⟩, ?_, hcontext.trans h.context, h.fields, h.given⟩
  · rw [outputs_of_kept hkept, h.each]
  · refine forall_of_kept ?_ hkept h.made
    rintro h' _ ⟨sink, hsink, rfl⟩ ⟨hlevel, hformatter⟩
    refine ⟨hlevel, ?_⟩
    simp only [hsink]
    exact hformatter
  · rw [show j'.level = j.level from hlevel]
    exact h.level
  · refine forall_of_kept ?_ hkept h.filtered
    rintro h' _ ⟨sink, -, rfl⟩ hfiltered
    exact hfiltered

/-! ### Runs -/

/-- If it was not configured yet, a journal only prints messages as they are while time passes, and
otherwise it follows the calls. -/
def AsCalled (j₀ : Journal) (calls : List Call) (j : Journal) : Prop :=
  match Call.latestSettings? calls with
  | none => ∃ clock, j = { j₀ with
      clock, printed := j₀.printed ++ calls.reverse.flatMap (Call.bare j₀.level) }
  | some s => ∃ c, Follows calls s j₀.isTerminal j c

lemma AsCalled.isTerminal_eq {j₀ : Journal} (h : AsCalled j₀ calls j) :
    j.isTerminal = j₀.isTerminal := by
  unfold AsCalled at h
  split at h
  · obtain ⟨clock, h⟩ := h
    rw [h]
  · obtain ⟨c, h⟩ := h
    exact h.terminal

/-- A call that brings no settings lets an unconfigured journal print at most its message, and one
that follows the calls goes on to follow them. -/
lemma AsCalled.cons_of_settings? {j₀ : Journal} (h : AsCalled j₀ calls j) {call : Call}
    (hcall : call.settings? = none)
    (hbefore : ∀ clock printed, j = { j₀ with clock, printed } →
      ∃ clock, j' = { j₀ with clock, printed := printed ++ call.bare j₀.level })
    (hafter : ∀ s c, Follows calls s j₀.isTerminal j c →
      ∃ c', Follows (call :: calls) s j₀.isTerminal j' c') :
    AsCalled j₀ (call :: calls) j' := by
  have hlatest : Call.latestSettings? (call :: calls) = Call.latestSettings? calls := by
    simp [Call.latestSettings?, hcall]
  unfold AsCalled at h ⊢
  rw [hlatest]
  cases hsettings : Call.latestSettings? calls with
  | none =>
    rw [hsettings] at h
    obtain ⟨clock, h⟩ := h
    simp only [List.reverse_cons, List.flatMap_append, List.flatMap_singleton, ← List.append_assoc]
    exact hbefore clock _ h
  | some s =>
    rw [hsettings] at h
    obtain ⟨c, h⟩ := h
    exact hafter s c h

/-- Without handlers a message is printed as it is, or nothing happens. -/
lemma write_of_handlers_nil (hhandlers : j.handlers = []) (channel : Text) (level : Int)
    (message : Text) : (j.write channel level message).1 =
      j.print (Call.bare j.level (.tell channel level message)) := by
  have hnothing : j.print [] = j := by simp [print]
  simp only [write, Call.bare, hhandlers]
  by_cases hlevel : level ≤ 0 ∨ level < j.level
  · rw [if_pos hlevel, if_neg (by omega), hnothing]
  · rw [if_neg hlevel]
    by_cases hwarning : level < warningLevel
    · simp only [List.isEmpty_nil, if_true, hwarning]
      rw [if_neg (by omega), hnothing]
    · simp only [List.isEmpty_nil, if_true, hwarning, if_false]
      rw [if_pos (by omega)]

lemma AsCalled.cons {j₀ : Journal} (hhandlers : j₀.handlers = []) (hcontext : j₀.context = none)
    (h : AsCalled j₀ calls j) {call : Call} (hcall : call.Takes j j') :
    AsCalled j₀ (call :: calls) j' := by
  have hsilent (printed : Text) : printed ++ [] = printed := List.append_nil printed
  cases hcall with
  | configure hconfigure =>
    have hfollows := follows_of_configure calls hconfigure
    rw [h.isTerminal_eq] at hfollows
    exact hfollows
  | @add values given _ hchecked =>
    obtain rfl : values = given := by
      unfold Context.checked at hchecked
      split_ifs at hchecked
      exact Except.ok.inj hchecked
    refine h.cons_of_settings? rfl ?_ fun s c h => ⟨_, h.addContext values⟩
    rintro clock printed rfl
    exact ⟨clock, by simp only [addContext, hcontext, Option.map_none, Call.bare, hsilent]⟩
  | clear =>
    refine h.cons_of_settings? rfl ?_ fun s c h => ⟨_, h.clearContext⟩
    rintro clock printed rfl
    exact ⟨clock, by simp only [clearContext, hcontext, Option.map_none, Call.bare, hsilent]⟩
  | tell channel level message =>
    refine h.cons_of_settings? rfl ?_ fun s c h =>
      ⟨c, (h.of_keeps (write_keeps channel level message j)).cons rfl fun _ => rfl⟩
    rintro clock printed rfl
    exact ⟨clock, write_of_handlers_nil (j := { j₀ with clock, printed }) hhandlers _ _ _⟩
  | wait second =>
    refine h.cons_of_settings? rfl ?_ fun s c h => ?_
    · rintro clock printed rfl
      exact ⟨second, by simp only [Call.bare, hsilent]⟩
    · have hlater : Follows calls s j₀.isTerminal { j with clock := second } c := { h with }
      exact ⟨c, hlater.cons rfl fun _ => rfl⟩

lemma asCalled_of_runs {j₀ : Journal} (hhandlers : j₀.handlers = [])
    (hcontext : j₀.context = none) (h : Runs j₀ calls j) : AsCalled j₀ calls j := by
  induction h with
  | nil => exact ⟨j₀.clock, by simp⟩
  | cons _ hcall ih => exact ih.cons hhandlers hcontext hcall

/-! ### Records -/

variable {r : Record}

/-- The context of a journal that follows the calls says what they gave. -/
lemma Follows.text_eq (h : Follows calls s isTerminal j c) {names : List Value}
    (hnames : ({ fields := s.fields } : Context).names = .ok names)
    (hkeys : ∀ name ∈ names, name.isKey = true) : c.text = .ok (Call.contextText calls names) := by
  have hsame : c.names = .ok names := by
    rw [← hnames, Context.names, Context.names, h.fields]
  have hshown : c.shown = fun name => name.plain ++ .char '=' ::
      ((name.text?.bind (Call.latest? calls)).getD (.text "-")).plain := by
    funext name
    rw [Context.shown, funext h.given]
  rw [Context.text_eq hsame hkeys, hshown]
  rfl

/-- Whatever the handlers in front make of it, each handler gets the record as it was told, with the
context. -/
lemma emitAll_eq {text : Text} (hcontext : j.context = some c) (htext : c.text = .ok text)
    (hfiltered : ∀ h ∈ handlers, h.hasContext = true)
    (hlevel : ∀ h ∈ handlers, h.level ≤ r.level) :
    emitAll r handlers j = ((emitEach { r with context := some text } handlers j).1,
      (emitEach { r with context := some text } handlers j).2, .ok ()) := by
  induction handlers generalizing j r with
  | nil => rfl
  | cons h rest ih =>
    obtain ⟨hfirst, hrest⟩ := List.forall_mem_cons.mp hfiltered
    obtain ⟨hle, hlevels⟩ := List.forall_mem_cons.mp hlevel
    have hcontextual : j.contextual h r = .ok { r with context := some text } := by
      simp only [contextual, hcontext, hfirst, if_true, htext]
      rfl
    have hnext : (j.writeLine h (h.lineOf { r with context := some text })).1.context = some c := by
      obtain ⟨files, printed, hwrote⟩ :=
        (writeLine_wrote h (h.lineOf { r with context := some text }) j).1
      rw [hwrote, hcontext]
    unfold emitAll emitEach
    rw [if_neg (Int.not_lt.mpr hle), hcontextual]
    simp only [emit_eq, h.format_snd (r := { r with context := some text }) rfl]
    simp only [Option.getD_some]
    rw [ih (r := { r with context := some text }) hnext hrest hlevels]

/-- What stands in the log file after this. -/
example :
    let r : Record :=
      { channel := rootChannel, level := 30, message := "second", second := 0
        context := some "proxy=b:2 | network=-" }
    let f : Formatter :=
      { template := "%(asctime)s %(levelname)s [%(context)s] %(message)s"
        datePattern := Formatter.logDates }
    (f.format r).2 =
      .ok ("1970-01-01 00:00:00 WARNING [proxy=b:2 | network=-] second" : Text) := by rfl

end Journal

end Socks5.Log
