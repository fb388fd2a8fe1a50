/-
# A command that fails has no output

A command prints and writes as it goes, and it may fail at many places.  Nothing of what it has
done is taken back then; so that a failing command leaves nothing behind is a fact about the order
of its actions (`run_contained`).  It holds up to one thing: where standard output itself refuses a
text, what stands in front of that text is out already (`run_output_cut`).

`plan` works out the texts that a command is to hand over, from the files as they are at the start.
Whatever can fail on the way to them, fails before anything is done, and when there are texts the
rest of the command hands them over (`run_perform`).  The one place where this is not a matter of
order is the loop that prints headers, each of which is rendered behind the one before it was
printed: there no rendering fails, since the limits of a parsed statement are short enough
(`writable_of_documents`).
-/
import StoredFunctions.Command.Run
import StoredFunctions.Proofs.Files.Tree
import StoredFunctions.Proofs.Statement.Invariant
import StoredFunctions.Proofs.Statement.Loading

namespace StoredFunctions

/-! ## 1. Texts of statements -/

namespace Kind

theorem limitPrints_of_isBound {limit : Option Nat} (h : IsBound limit) :
    limitPrints limit = true := by
  cases limit with
  | none => rfl
  | some n => exact decide_eq_true (h n rfl)

mutual

/-- A kind that can be written can be printed. -/
theorem prints_of_writable : (k : Kind) → k.Writable → k.prints = true
  | primitive _, _ => rfl
  | geometry _ _, _ => rfl
  | record _, _ => rfl
  | option inner, h => prints_of_writable inner h
  | array inner limit, h => by
    rw [prints, prints_of_writable inner h.1, limitPrints_of_isBound h.2, Bool.and_true]
  | set inner limit, h => by
    rw [prints, prints_of_writable inner h.1, limitPrints_of_isBound h.2, Bool.and_true]
  | either first second more, h => by
    rw [prints, prints_of_writable first h.1, prints_of_writable second h.2.1,
      allPrint_of_writable more h.2.2, Bool.and_true, Bool.and_true]

theorem allPrint_of_writable : (ks : List Kind) → AllWritable ks → allPrint ks = true
  | [], _ => rfl
  | k :: more, h => by
    rw [allPrint, prints_of_writable k h.1, allPrint_of_writable more h.2, Bool.and_true]

end

end Kind

theorem Statement.prints_of_writable {s : Statement} (h : s.Writable) : s.prints = true :=
  List.all_eq_true.mpr fun p hp => p.kind.prints_of_writable (h.kinds p hp)

theorem Statement.signature?_of_writable {s : Statement} (h : s.Writable) :
    s.signature? = some s.signature := by
  rw [signature?, if_pos (prints_of_writable h)]

theorem Archive.write?_of_writable {asciiOnly : Bool} {statements : List Statement}
    (h : ∀ s ∈ statements, s.Writable) :
    write? asciiOnly statements = some (write asciiOnly statements) := by
  rw [write?, if_pos]
  exact List.all_eq_true.mpr fun s hs => Statement.prints_of_writable (h s hs)

namespace Command

open Command.Action FileTree

variable {system : System} {world : World} {a : Arguments} {settings : Settings}
  {found : List Document} {templates : List Text} {statements : List Statement}
  {progress : Progress} {console : Console} {text taken wording : Text}
  {texts before after : List Text}

/-! ## 2. Documents -/

theorem lift_ok_iff {ε α : Type} {wrap : ε → Error} {o : Except ε α} {v : α} :
    lift wrap o = .ok v ↔ o = .ok v := by
  cases o with
  | ok w => simp [lift]
  | error e => simp [lift]

/-- **Every statement that a command is about can be written.** -/
theorem writable_of_documents (h : documents system world settings templates = .ok found) :
    ∀ s ∈ statementsOf found, s.Writable := by
  rw [documents, except_bind_ok_iff] at h
  obtain ⟨paths, -, h⟩ := h
  split at h
  · exact absurd h (by simp)
  · have hload := Document.map_load_of_loadAllUnder (lift_ok_iff.mp h)
    intro s hs
    obtain ⟨document, hdocument, hs⟩ := List.mem_flatMap.mp hs
    have hmem : (.ok document : Except DocumentError Document) ∈ found.map .ok :=
      List.mem_map_of_mem hdocument
    rw [← hload] at hmem
    obtain ⟨path, -, hpath⟩ := List.mem_map.mp hmem
    exact Statement.writable_of_parseAll (Document.parseAll_of_load hpath) hs

/-! ## 3. Standard output -/

/-- Whether a standard output takes texts, one after the other, behind what it has taken. -/
def Console.Takes (console : Console) (taken : Text) : List Text → Prop
  | [] => True
  | t :: more => console.refusal? taken t = none ∧ console.Takes (taken ++ t) more

/-- **A standard output that refuses one of some texts**: it takes those in front of it, and not
that one. -/
structure Cut (console : Console) (taken : Text) (texts before : List Text) (wording : Text) :
    Prop where
  takes : console.Takes taken before
  refused : ∃ text after, texts = before ++ text :: after ∧
    console.refusal? (taken ++ before.flatten) text = some wording

theorem not_takes_of_refused (h : console.refusal? (taken ++ before.flatten) text = some wording) :
    ¬ console.Takes taken (before ++ text :: after) := by
  induction before generalizing taken with
  | nil =>
    rw [List.flatten_nil, List.append_nil] at h
    rw [List.nil_append, Console.Takes, h]
    simp
  | cons t before ih =>
    rw [List.flatten_cons, ← List.append_assoc] at h
    rw [List.cons_append, Console.Takes]
    exact fun hall => ih h hall.2

/-- A standard output that refuses one of some texts does not take them all. -/
theorem Cut.not_takes (h : Cut console taken texts before wording) :
    ¬ console.Takes taken texts := by
  obtain ⟨text, after, rfl, hrefused⟩ := h.refused
  exact not_takes_of_refused hrefused

/-! ## 4. Actions -/

theorem run_result {α : Type} {o : Except Error α} :
    (result o).run progress = (o, progress) := rfl

theorem run_reading {α : Type} {f : FileTree → Except Error α} :
    (reading f).run progress = (f progress.files, progress) := by
  rw [reading, run_bind_ok run_get]
  rfl

theorem run_emit_taken (h : console.refusal? progress.printed text = none) :
    (emit console text).run progress =
      (.ok (), { progress with printed := progress.printed ++ text }) := by
  rw [emit, run_bind_ok run_get, h]
  rfl

theorem run_emit_refused (h : console.refusal? progress.printed text = some wording) :
    (emit console text).run progress = (.error (.unprintable wording), progress) := by
  rw [emit, run_bind_ok run_get, h]
  rfl

/-- **Texts are handed over to the end, or up to one that is refused.** -/
theorem run_emits_cases (console : Console) (texts : List Text) (progress : Progress) :
    (console.Takes progress.printed texts ∧ (texts.forM (emit console)).run progress =
        (.ok (), { progress with printed := progress.printed ++ texts.flatten })) ∨
      ∃ before wording, Cut console progress.printed texts before wording ∧
        (texts.forM (emit console)).run progress = (.error (.unprintable wording),
          { progress with printed := progress.printed ++ before.flatten }) := by
  induction texts generalizing progress with
  | nil =>
    refine .inl ⟨trivial, ?_⟩
    rw [List.flatten_nil, List.append_nil]
    rfl
  | cons t texts ih =>
    rw [List.forM]
    cases hrefusal : console.refusal? progress.printed t with
    | some wording =>
      have hnone : progress.printed ++ ([] : List Text).flatten = progress.printed := by simp
      refine .inr ⟨[], wording, ⟨trivial, t, texts, rfl, by rwa [hnone]⟩, ?_⟩
      rw [run_bind_error (run_emit_refused hrefusal), hnone]
    | none =>
      rw [run_bind_ok (run_emit_taken hrefusal)]
      rcases ih { progress with printed := progress.printed ++ t } with
        ⟨htakes, hrun⟩ | ⟨before, wording, ⟨htakes, text, after, rfl, hrefused⟩, hrun⟩
      · refine .inl ⟨⟨hrefusal, htakes⟩, ?_⟩
        rw [hrun, List.flatten_cons, List.append_assoc]
      · rw [List.append_assoc] at hrefused hrun
        exact .inr ⟨t :: before, wording, ⟨⟨hrefusal, htakes⟩, text, after, rfl, hrefused⟩, hrun⟩

theorem printable_some : printable (some text) = .ok text := rfl

/-- The texts of headers, each with a line end behind it. -/
def headerTexts (statements : List Statement) : List Text :=
  statements.flatMap fun s => [s.signature, Text.of "\n"]

/-- The texts that `parse` prints. -/
def parseTexts (json : Bool) (statements : List Statement) : List Text :=
  if json then [Archive.write true statements, Text.of "\n"] else headerTexts statements

/-- The headers of statements as lines. -/
def headerLines (statements : List Statement) : Text :=
  (statements.map fun s => asLine s.signature).flatten

theorem flatten_headerTexts (statements : List Statement) :
    (headerTexts statements).flatten = headerLines statements := by
  induction statements with
  | nil => rfl
  | cons s statements ih =>
    simp only [headerTexts, headerLines] at ih ⊢
    simp [ih, asLine]

theorem print_eq : print console text = [text, Text.of "\n"].forM (emit console) := by
  rw [print]
  simp only [List.forM, bind_pure_unit]

/-- The loop over headers hands over their texts, since there is one for each. -/
theorem printHeaders_eq (h : ∀ s ∈ statements, s.Writable) :
    (statements.forM fun s => do print console (← result (printable s.signature?))) =
      (headerTexts statements).forM (emit console) := by
  induction statements with
  | nil => rfl
  | cons s statements ih =>
    rw [List.forall_mem_cons] at h
    have hfirst : (do print console (← result (printable s.signature?)) : Action Unit) =
        print console s.signature := by
      rw [Statement.signature?_of_writable h.1, printable_some]
      rfl
    rw [List.forM, hfirst, ih h.2, print_eq]
    simp only [headerTexts, List.flatMap_cons, List.cons_append, List.nil_append, List.forM,
      bind_assoc, pure_bind]

/-- **Statements that can be written are printed text by text.** -/
theorem printStatements_eq (json : Bool) (h : ∀ s ∈ statements, s.Writable) :
    printStatements console json statements =
      (parseTexts json statements).forM (emit console) := by
  cases json with
  | false => exact printHeaders_eq h
  | true =>
    rw [printStatements, if_pos rfl, Archive.write?_of_writable h, printable_some, parseTexts,
      if_pos rfl, ← print_eq]
    rfl

/-! ## 5. Plans -/

/-- Where a command is asked to put its text, if not to standard output. -/
def Verb.output? : Verb → Option FilePath
  | parse _ => none
  | generate _ output => output

/-- The texts that a command is to hand over, worked out without doing anything. -/
def plan (system : System) (world : World) (a : Arguments) : Except Error (List Text) := do
  let settings ← effectiveSettings system world a
  let found ← documents system world settings a.templates
  match a.verb with
  | .parse json => pure (parseTexts json (statementsOf found))
  | .generate naming _ => pure [← generateText settings naming found]

/-- Hands over texts: to standard output one by one, or to a file all at once. -/
def handOver (console : Console) (texts : List Text) : Option FilePath → Action Unit
  | none => texts.forM (emit console)
  | some path => operate (FileTree.writeWithin path texts.flatten)

theorem deliver_eq {output : Option FilePath} :
    deliver console text output = handOver console [text] output := by
  cases output with
  | none => simp only [deliver, handOver, List.forM, bind_pure_unit]
  | some path => rw [deliver, handOver, List.flatten_singleton]

/-- **A command fails before it does anything, or hands over its texts.** -/
theorem run_perform (system : System) (world : World) (a : Arguments) :
    (perform system world.lookup a).run ⟨[], world.files⟩ = match plan system world a with
      | .error e => (.error e, ⟨[], world.files⟩)
      | .ok texts => (handOver system.console texts a.verb.output?).run ⟨[], world.files⟩ := by
  rw [perform, plan]
  -- What only reads leaves all as it was, so each step up to the texts is a step of the plan.
  cases hsettings : effectiveSettings system world a with
  | error e => exact run_bind_error (run_reading.trans (by rw [hsettings]))
  | ok settings =>
    rw [run_bind_ok (run_reading.trans (by rw [hsettings])), except_ok_bind]
    cases hfound : documents system world settings a.templates with
    | error e => exact run_bind_error (run_reading.trans (by rw [hfound]))
    | ok found =>
      rw [run_bind_ok (run_reading.trans (by rw [hfound])), except_ok_bind]
      cases hverb : a.verb with
      | parse json =>
        simp only [printStatements_eq json (writable_of_documents hfound)]
        rfl
      | generate naming output =>
        simp only [Verb.output?, deliver_eq]
        cases htext : generateText settings naming found with
        | error e => exact run_bind_error run_result
        | ok text => exact run_bind_ok run_result

/-! ## 6. The program -/

/-- The statements that a command is about. -/
def loaded (system : System) (world : World) (a : Arguments) : Except Error (List Statement) := do
  let settings ← effectiveSettings system world a
  pure (statementsOf (← documents system world settings a.templates))

theorem plan_of_parse {json : Bool} (hverb : a.verb = .parse json) :
    plan system world a = (loaded system world a).map (parseTexts json) := by
  rw [plan, loaded, hverb]
  cases effectiveSettings system world a with
  | error e => rfl
  | ok settings =>
    rw [except_ok_bind, except_ok_bind]
    cases documents system world settings a.templates with
    | error e => rfl
    | ok found => rfl

theorem exists_of_plan_parse {json : Bool} (hverb : a.verb = .parse json)
    (h : plan system world a = .ok texts) :
    ∃ statements, loaded system world a = .ok statements ∧ texts = parseTexts json statements := by
  rw [plan_of_parse hverb] at h
  cases hloaded : loaded system world a with
  | error e => exact absurd h (by simp [hloaded, Except.map])
  | ok statements =>
    rw [hloaded] at h
    exact ⟨statements, rfl, (Except.ok.inj h).symm⟩

/-- A command that is to make a module has one text to hand over. -/
theorem exists_of_plan_generate {naming : Option Text} {output : Option FilePath}
    (hverb : a.verb = .generate naming output) (h : plan system world a = .ok texts) :
    ∃ text, texts = [text] := by
  simp only [plan, hverb, except_bind_ok_iff] at h
  obtain ⟨settings, -, found, -, text, -, h⟩ := h
  exact ⟨text, (Except.ok.inj h).symm⟩

/-- Texts of headers up to one that is no line end make up the lines of the statements in front. -/
theorem exists_front : ∀ {statements : List Statement} {before : List Text},
    headerTexts statements = before ++ text :: after → text ≠ Text.of "\n" →
      ∃ front s back, statements = front ++ s :: back ∧ before.flatten = headerLines front ∧
        text = s.signature
  | [], before, h, _ => absurd h (by simp [headerTexts])
  | s :: more, [], h, _ => ⟨[], s, more, rfl, rfl, (List.cons.inj h).1.symm⟩
  | s :: more, [t], h, htext => absurd (List.cons.inj (List.cons.inj h).2).1.symm htext
  | s :: more, t :: u :: before, h, htext => by
    obtain ⟨rfl, htail⟩ := List.cons.inj h
    obtain ⟨rfl, hmore⟩ := List.cons.inj htail
    obtain ⟨front, s', back, rfl, hbefore, rfl⟩ := exists_front hmore htext
    refine ⟨s :: front, s', back, rfl, ?_, rfl⟩
    rw [List.flatten_cons, List.flatten_cons, hbefore]
    simp [headerLines, asLine]

theorem eq_nil_of_lone {t : Text} (h : [t] = before ++ text :: after) : before = [] := by
  cases before with
  | nil => rfl
  | cons u before => exact absurd (List.cons.inj h).2 (by simp)

/-- Of a text and what ends it nothing stands in front of the text. -/
theorem eq_nil_of_ended {t ending : Text} (h : [t, ending] = before ++ text :: after)
    (htext : text ≠ ending) : before = [] := by
  cases before with
  | nil => rfl
  | cons u before =>
    obtain ⟨-, htail⟩ := List.cons.inj h
    obtain rfl := eq_nil_of_lone htail
    exact absurd (List.cons.inj htail).1.symm htext

/-- What stands in front of a text that is refused: nothing, or lines of headers. -/
theorem Cut.lines (h : Cut system.console [] texts before wording)
    (hplan : plan system world a = .ok texts)
    (hends : ∀ taken, system.console.refusal? taken (Text.of "\n") = none) :
    before.flatten = [] ∨ a.verb = .parse false ∧ ∃ front s back,
      loaded system world a = .ok (front ++ s :: back) ∧
        before.flatten = headerLines front ∧
        system.console.refusal? before.flatten s.signature = some wording := by
  obtain ⟨text, after, htexts, hrefused⟩ := h.refused
  rw [List.nil_append] at hrefused
  have htext : text ≠ Text.of "\n" := by
    rintro rfl
    exact absurd (hrefused.symm.trans (hends _)) (by simp)
  cases hverb : a.verb with
  | generate naming output =>
    obtain ⟨t, rfl⟩ := exists_of_plan_generate hverb hplan
    exact .inl (by rw [eq_nil_of_lone htexts, List.flatten_nil])
  | parse json =>
    obtain ⟨statements, hloaded, rfl⟩ := exists_of_plan_parse hverb hplan
    cases json with
    | false =>
      obtain ⟨front, s, back, rfl, hbefore, rfl⟩ := exists_front htexts htext
      exact .inr ⟨rfl, front, s, back, hloaded, hbefore, hrefused⟩
    | true => exact .inl (by rw [eq_nil_of_ended htexts htext, List.flatten_nil])

/-- What a command has done when it ends is what the program does. -/
theorem run_of_perform {args : List Text} {outcome : Except Error Unit}
    (h : readArguments args = .ok a)
    (hperform : (perform system world.lookup a).run ⟨[], world.files⟩ = (outcome, progress)) :
    runOn system world args = .ok (match outcome with
      | .ok () => ⟨0, progress.printed, [], progress.files⟩
      | .error e => ⟨1, progress.printed, errorLine e, progress.files⟩) := by
  rw [runOn, h]
  simp only [hperform]
  cases outcome with
  | ok _ => rfl
  | error e => rfl

/-- A command without texts ends with the error that says why. -/
theorem runOn_of_refused {args : List Text} {error : Error} (h : readArguments args = .ok a)
    (hplan : plan system world a = .error error) :
    runOn system world args = .ok ⟨1, [], errorLine error, world.files⟩ := by
  have hperform := run_perform system world a
  rw [hplan] at hperform
  exact run_of_perform h hperform

/-- A command that is to print prints to the end, or up to a text that is refused. -/
theorem runOn_printed_cases {args : List Text} (h : readArguments args = .ok a)
    (houtput : a.verb.output? = none) (hplan : plan system world a = .ok texts) :
    (system.console.Takes [] texts ∧
        runOn system world args = .ok ⟨0, texts.flatten, [], world.files⟩) ∨
      ∃ before wording, Cut system.console [] texts before wording ∧
        runOn system world args =
          .ok ⟨1, before.flatten, errorLine (.unprintable wording), world.files⟩ := by
  have hperform := run_perform system world a
  simp only [hplan, houtput, handOver] at hperform
  rcases run_emits_cases system.console texts ⟨[], world.files⟩ with
    ⟨htakes, hrun⟩ | ⟨before, wording, hcut, hrun⟩
  · exact .inl ⟨htakes, run_of_perform h (hperform.trans hrun)⟩
  · exact .inr ⟨before, wording, hcut, run_of_perform h (hperform.trans hrun)⟩

end Command

end StoredFunctions
