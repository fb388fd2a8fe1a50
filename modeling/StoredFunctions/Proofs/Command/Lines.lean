/-
# Lines of headers

`parse` prints the headers of all statements, each with a line end behind it.  So its output has
one line for each statement only if no header has a line end of its own.

A header is put together from punctuation, keywords, numbers and names, and names are all that can
bring a line end into it (`Statement.lineEnds_signature`): the canonical spelling puts backslashes
in front of backticks and backslashes, and leaves all else as it is, although between backticks a
line end could be spelt `\n` and would be read back.  The name of a parameter may contain one, and
so may the name of a table, at any depth of a kind.

* `run_headers`: what is printed for documents that can be loaded, and that it is one line for each
  statement exactly when no name contains a line end;
* `run_headers_broken`: a document with two lines for one statement.
-/
import StoredFunctions.Proofs.Command.Run

namespace StoredFunctions

/-! ## 1. Line ends -/

/-- How many line ends a text has. -/
def lineEnds (t : Text) : Nat := t.count '\n'

@[simp] theorem lineEnds_append (s t : Text) : lineEnds (s ++ t) = lineEnds s + lineEnds t :=
  List.count_append

theorem lineEnds_eq_zero_iff {t : Text} : lineEnds t = 0 ↔ '\n' ∉ t :=
  List.count_eq_zero

theorem lineEnds_of {literal : String} (h : '\n' ∉ literal.toList) :
    lineEnds (Text.of literal) = 0 := by
  rwa [lineEnds_eq_zero_iff, Text.of_eq]

/-- Joined texts have the line ends of the texts, if the separator has none. -/
theorem Text.lineEnds_join {separator : Text} (h : lineEnds separator = 0) (texts : List Text) :
    lineEnds (Text.join separator texts) = lineEnds texts.flatten := by
  fun_induction Text.join separator texts with
  | case1 => rfl
  | case2 t => simp
  | case3 t u more ih => simp [h, ih]

/-- **The canonical spelling of a name has the line ends of the name.** -/
theorem Names.lineEnds_escape (name : Text) : lineEnds (escape name) = lineEnds name := by
  have hchar : ∀ c, lineEnds (escapeChar c) = lineEnds [c] := by
    intro c
    rw [escapeChar]
    split
    · exact List.count_cons_of_ne (by decide)
    · rfl
  have hbody : lineEnds (name.flatMap escapeChar) = lineEnds name := by
    induction name with
    | nil => rfl
    | cons c more ih =>
      rw [List.flatMap_cons, lineEnds_append, hchar, ih, ← lineEnds_append, List.singleton_append]
  have hquote : lineEnds [backtick] = 0 := by decide
  rw [escape]
  split
  · rfl
  · rw [← List.singleton_append, List.append_assoc, lineEnds_append, lineEnds_append, hquote, hbody,
      Nat.add_zero, Nat.zero_add]

theorem Text.lineEnds_ofNat (n : Nat) : lineEnds (Text.ofNat n) = 0 := by
  rw [lineEnds_eq_zero_iff]
  intro h
  exact absurd (List.all_eq_true.mp (Text.all_isDigit_ofNat n) _ h) (by decide)

/-! ## 2. Headers -/

namespace Kind

theorem lineEnds_primitive (p : Primitive) : lineEnds p.text = 0 := by
  cases p <;> exact lineEnds_of (by decide)

theorem lineEnds_shape (s : Shape) : lineEnds s.text = 0 := by
  cases s <;> exact lineEnds_of (by decide)

theorem lineEnds_of_isAny {k : Kind} (h : k.isAny = true) : lineEnds k.text = 0 := by
  rw [eq_any_of_isAny h]
  exact lineEnds_primitive .any

/-- The line ends of arguments are those of what stands in them. -/
theorem lineEnds_arguments {opening inner : Text} (h : lineEnds opening = 0) :
    lineEnds (opening ++ inner ++ Text.of ">") = lineEnds inner := by
  have hclose : lineEnds (Text.of ">") = 0 := lineEnds_of (by decide)
  rw [lineEnds_append, lineEnds_append, h, hclose, Nat.add_zero, Nat.zero_add]

theorem lineEnds_collectionText {keyword inner : Text} {innerIsAny : Bool} {limit : Option Nat}
    (hkeyword : lineEnds keyword = 0) (hany : innerIsAny = true → lineEnds inner = 0) :
    lineEnds (collectionText keyword innerIsAny inner (limit.map Text.ofNat)) = lineEnds inner := by
  cases limit with
  | none =>
    cases innerIsAny with
    | true => exact hkeyword.trans (hany rfl).symm
    | false =>
      have hopening : lineEnds (keyword ++ Text.of "<") = 0 := by
        rw [lineEnds_append, hkeyword, lineEnds_of (by decide)]
      exact lineEnds_arguments hopening
  | some n =>
    rw [Option.map_some, collectionText]
    simp (disch := decide) [hkeyword, lineEnds_of, Text.lineEnds_ofNat]

theorem lineEnds_bar : lineEnds (Text.of " | ") = 0 := lineEnds_of (by decide)

theorem lineEnds_tables (tables : List Table) :
    lineEnds (Table.listText " | " tables) = lineEnds (tables.map Table.name).flatten := by
  rw [Table.listText, Text.lineEnds_join lineEnds_bar]
  induction tables with
  | nil => rfl
  | cons t more ih => simp [ih, Table.text, Names.lineEnds_escape]

theorem lineEnds_shapes (shapes : List Shape) : lineEnds (shapes.map Shape.text).flatten = 0 := by
  induction shapes with
  | nil => rfl
  | cons s more ih => simp [ih, lineEnds_shape]

mutual

/-- **The line ends of a kind are those of its tables**, at every depth. -/
theorem lineEnds_text : (k : Kind) →
    lineEnds k.text = lineEnds (k.within.flatMap tableNames).flatten
  | primitive p => lineEnds_primitive p
  | geometry first more => by
    rw [text, lineEnds_arguments (lineEnds_of (by decide)), Text.lineEnds_join lineEnds_bar]
    exact lineEnds_shapes (first :: more)
  | record [] => lineEnds_of (by decide)
  | record (t :: more) => by
    rw [text, lineEnds_arguments (lineEnds_of (by decide)), lineEnds_tables]
    simp [within, tableNames]
  | option inner => by
    rw [text, lineEnds_arguments (lineEnds_of (by decide)), lineEnds_text inner]
    rfl
  | array inner limit => by
    rw [text, lineEnds_collectionText (lineEnds_of (by decide)) lineEnds_of_isAny,
      lineEnds_text inner]
    rfl
  | set inner limit => by
    rw [text, lineEnds_collectionText (lineEnds_of (by decide)) lineEnds_of_isAny,
      lineEnds_text inner]
    rfl
  | either first second more => by
    rw [text, lineEnds_arguments (lineEnds_of (by decide)), Text.lineEnds_join lineEnds_bar,
      List.flatten_cons, List.flatten_cons, lineEnds_append, lineEnds_append, lineEnds_text first,
      lineEnds_text second, lineEnds_texts more]
    simp [within, tableNames]

theorem lineEnds_texts : (ks : List Kind) →
    lineEnds (texts ks).flatten = lineEnds ((allWithin ks).flatMap tableNames).flatten
  | [] => rfl
  | k :: more => by
    rw [texts, List.flatten_cons, lineEnds_append, lineEnds_text k, lineEnds_texts more]
    simp [allWithin]

end

end Kind

theorem Parameter.lineEnds_text (p : Parameter) : lineEnds p.text =
    lineEnds p.ident.name + lineEnds (p.kind.within.flatMap Kind.tableNames).flatten := by
  simp (disch := decide) [text, Identifier.text, Names.lineEnds_escape, Kind.lineEnds_text,
    lineEnds_of]

theorem Parameter.lineEnds_texts (parameters : List Parameter) :
    lineEnds (parameters.map Parameter.text).flatten =
      lineEnds (parameters.map (·.ident.name)).flatten +
        lineEnds (parameters.flatMap fun p => p.kind.within.flatMap Kind.tableNames).flatten := by
  induction parameters with
  | nil => rfl
  | cons p more ih =>
    simp only [List.map_cons, List.flatten_cons, List.flatMap_cons, List.flatten_append,
      lineEnds_append, ih, lineEnds_text]
    omega

/-- **The line ends of a header are those of the names in it.** -/
theorem Statement.lineEnds_signature (s : Statement) :
    lineEnds s.signature = lineEnds s.names.flatten := by
  have hcolons : lineEnds (Text.of "::") = 0 := lineEnds_of (by decide)
  have hcomma : lineEnds (Text.of ", ") = 0 := lineEnds_of (by decide)
  rw [signature, qualifiedName, names, parameterNames, List.flatten_append, List.flatten_append]
  simp (disch := decide) only [lineEnds_append, lineEnds_of, Text.lineEnds_join hcolons,
    Text.lineEnds_join hcomma, Parameter.lineEnds_texts, Nat.zero_add, Nat.add_zero]

namespace Command

variable {system : System} {world : World} {args : List Text} {a : Arguments} {settings : Settings}
  {paths : List FilePath} {found : List Document} {statements : List Statement}
  {lines : List Text} {t : Text}

/-! ## 3. Lines -/

/-- **A text of these lines**: each has a line end behind it, and none has one inside. -/
structure IsLines (lines : List Text) (t : Text) : Prop where
  text : t = (lines.map asLine).flatten
  whole : ∀ line ∈ lines, '\n' ∉ line

theorem lineEnds_asLine (line : Text) : lineEnds (asLine line) = lineEnds line + 1 := by
  rw [asLine, lineEnds_append, Text.of_eq]
  rfl

theorem lineEnds_asLines (lines : List Text) :
    lineEnds (lines.map asLine).flatten = lines.length + lineEnds lines.flatten := by
  induction lines with
  | nil => rfl
  | cons line lines ih =>
    rw [List.map_cons, List.flatten_cons, List.flatten_cons, lineEnds_append, lineEnds_append,
      lineEnds_asLine, ih, List.length_cons]
    omega

/-- Texts without line ends, one after the other, have none. -/
theorem lineEnds_flatten_eq_zero_iff {texts : List Text} :
    lineEnds texts.flatten = 0 ↔ ∀ t ∈ texts, '\n' ∉ t := by
  simp [lineEnds_eq_zero_iff, List.mem_flatten]

/-- A text of lines has as many line ends as lines. -/
theorem IsLines.lineEnds_eq (h : IsLines lines t) : lineEnds t = lines.length := by
  rw [h.text, lineEnds_asLines, lineEnds_flatten_eq_zero_iff.mpr h.whole, Nat.add_zero]

/-! ## 4. Listings -/

/-- **The headers of statements in print.** -/
structure Listing (statements : List Statement) (t : Text) : Prop where
  /-- The headers are printed in the order of the statements, each with a line end behind it. -/
  headers : t = ((statements.map Statement.signature).map asLine).flatten
  /-- There are as many more line ends than statements as the names of the statements have. -/
  ends : lineEnds t =
    statements.length + lineEnds (statements.flatMap Statement.names).flatten
  /-- The headers are the lines exactly when no name contains a line end. -/
  lines : IsLines (statements.map Statement.signature) t ↔
    ∀ s ∈ statements, ∀ name ∈ s.names, '\n' ∉ name
  /-- Unless that is so, no lines whatever that are one for each statement make up the text. -/
  count : (∃ lines : List Text, lines.length = statements.length ∧ IsLines lines t) ↔
    ∀ s ∈ statements, ∀ name ∈ s.names, '\n' ∉ name

theorem lineEnds_signatures (statements : List Statement) :
    lineEnds (statements.map Statement.signature).flatten =
      lineEnds (statements.flatMap Statement.names).flatten := by
  induction statements with
  | nil => rfl
  | cons s statements ih =>
    simp only [List.map_cons, List.flatten_cons, List.flatMap_cons, List.flatten_append,
      lineEnds_append, ih, Statement.lineEnds_signature]

/-- The lines of headers are a listing. -/
theorem listing_headerLines (statements : List Statement) :
    Listing statements (headerLines statements) := by
  have hheaders : headerLines statements =
      ((statements.map Statement.signature).map asLine).flatten := by
    rw [List.map_map]
    rfl
  have hends : lineEnds (headerLines statements) =
      statements.length + lineEnds (statements.flatMap Statement.names).flatten := by
    rw [hheaders, lineEnds_asLines, List.length_map, lineEnds_signatures]
  have hnames : (∀ s ∈ statements, ∀ name ∈ s.names, '\n' ∉ name) ↔
      lineEnds (statements.flatMap Statement.names).flatten = 0 := by
    rw [lineEnds_flatten_eq_zero_iff, List.forall_mem_flatMap]
  have hlines : IsLines (statements.map Statement.signature) (headerLines statements) ↔
      ∀ s ∈ statements, ∀ name ∈ s.names, '\n' ∉ name := by
    rw [hnames, ← lineEnds_signatures, lineEnds_flatten_eq_zero_iff]
    exact ⟨fun h => h.whole, fun h => ⟨hheaders, h⟩⟩
  refine ⟨hheaders, hends, hlines, ?_⟩
  constructor
  · rintro ⟨lines, hlength, h⟩
    have hcount := h.lineEnds_eq
    rw [hnames]
    omega
  · intro h
    exact ⟨_, List.length_map _, hlines.mpr h⟩

/-! ## 5. The command -/

/-- The texts that `parse` is to print are worked out from what is loaded. -/
theorem plan_parse (hverb : a.verb = .parse false)
    (hsettings : effectiveSettings system world a = .ok settings)
    (hpaths : Discovery.find world.lookup settings.suffix world.files a.templates = .ok paths)
    (hne : paths ≠ []) :
    plan system world a = (lift .load (Document.loadAllUnder system.turns world.files
      settings.parallel (settings.concurrency.getD []) paths)).map fun found =>
        headerTexts (statementsOf found) := by
  rw [plan_of_parse hverb, loaded, hsettings, except_ok_bind, documents, hpaths, lift,
    except_ok_bind, if_neg (by simpa using hne)]
  cases Document.loadAllUnder system.turns world.files settings.parallel
      (settings.concurrency.getD []) paths with
  | error e => rfl
  | ok found => rfl

/-- **What `parse` prints for documents that can be loaded.**  The command succeeds unless it gives
them to a pool that has no time for them, or standard output refuses one of the texts.  Then it has
printed their headers, in order, with a line end behind each; and that is one line for each
statement exactly when no name of a parameter or of a table contains a line end. -/
theorem run_headers (h : readArguments args = .ok a) (hverb : a.verb = .parse false)
    (hsettings : effectiveSettings system world a = .ok settings)
    (hpaths : Discovery.find world.lookup settings.suffix world.files a.templates = .ok paths)
    (hne : paths ≠ []) (hload : paths.map (Document.load world.files) = found.map .ok) :
    ∃ e, runOn system world args = .ok e ∧
      (e.code = 0 ↔
        (Document.inPool settings.parallel paths = true →
          Document.InTime system.turns (settings.concurrency.getD []) paths.length) ∧
        system.console.Takes [] (headerTexts (statementsOf found))) ∧
      (e.code = 0 → Listing (statementsOf found) e.stdout) := by
  have hplan := plan_parse hverb hsettings hpaths hne
  have houtput : a.verb.output? = none := by rw [hverb, Verb.output?]
  have htime : Document.loadAllUnder system.turns world.files settings.parallel
      (settings.concurrency.getD []) paths = .ok found ↔ _ :=
    Document.loadAllUnder_ok_iff_inTime hload
  rw [← htime]
  cases hall : Document.loadAllUnder system.turns world.files settings.parallel
      (settings.concurrency.getD []) paths with
  | error e =>
    rw [hall] at hplan
    exact ⟨_, runOn_of_refused h hplan, by simp, fun hcode => absurd hcode (by simp)⟩
  | ok all =>
    obtain rfl : all = found := by
      have hmap := Document.map_load_of_loadAllUnder hall
      exact (List.map_inj_right fun _ _ => Except.ok.inj).mp (hmap.symm.trans hload)
    rw [hall] at hplan
    rcases runOn_printed_cases h houtput hplan with ⟨htakes, hrun⟩ | ⟨before, wording, hcut, hrun⟩
    · refine ⟨_, hrun, by simp [htakes], fun _ => ?_⟩
      rw [flatten_headerTexts]
      exact listing_headerLines (statementsOf all)
    · exact ⟨_, hrun, by simp [hcut.not_takes], fun hcode => absurd hcode (by simp)⟩

theorem takes_unlimited {taken : Text} {texts : List Text} :
    Console.unlimited.Takes taken texts := by
  induction texts generalizing taken with
  | nil => trivial
  | cons t texts ih => exact ⟨rfl, ih⟩

/-- A document. -/
def plainDocument : Document where
  path := ⟨[], ["a.surql"]⟩
  text := "DEFINE FUNCTION fn::a($x: int) \x7b\x7d;"
  statements := [⟨[], "a", [⟨⟨"x"⟩, .primitive .int⟩], []⟩]

/-- A document with a line end in the name of a table. -/
def brokenDocument : Document where
  path := ⟨[], ["b.surql"]⟩
  text := "DEFINE FUNCTION fn::b($y: option<record<⟨u\nv⟩>>) \x7b\x7d;"
  statements := [⟨[], "b", [⟨⟨"y"⟩, .option (.record [⟨"u\nv"⟩])⟩], []⟩]

/-- The two documents. -/
def brokenDocuments : List Document := [plainDocument, brokenDocument]

/-- Their paths. -/
def brokenPaths : List FilePath := [plainDocument.path, brokenDocument.path]

/-- A world with the two documents. -/
def brokenWorld : World where
  lookup _ := none
  files := ⟨.directory [("a.surql", .file (Utf8.encode plainDocument.text)),
    ("b.surql", .file (Utf8.encode brokenDocument.text))], []⟩

/-- Arguments that ask for their headers. -/
def brokenArguments : List Text := ["parse", "a.surql", "b.surql"]

/-- What they ask for. -/
def brokenRequest : Arguments where
  config := none
  logLevel := none
  verb := .parse false
  templates := ["a.surql", "b.surql"]
  suffix := none
  sequential := false

theorem readArguments_broken : readArguments brokenArguments = .ok brokenRequest :=
  ok_of_toOption (by decide +kernel)

/-- The settings that come with the program are about files with its suffix, and they leave the
pool its time. -/
theorem exists_settings_broken :
    ∃ settings, effectiveSettings .standard brokenWorld brokenRequest = .ok settings ∧
      settings.suffix = Text.of ".surql" ∧ settings.parallel = true ∧
      Document.InTime Pool.schedule (settings.concurrency.getD []) brokenPaths.length := by
  have hread : (effectiveSettings .standard brokenWorld brokenRequest).toOption.map
      (fun s => (s.suffix, s.parallel, (Pool.defaults (s.concurrency.getD []) none).toOption.map
        fun found => Pool.schedule found.timeout)) = some (Text.of ".surql", true, some []) := by
    decide +kernel
  obtain ⟨settings, hsettings, hparts⟩ := Option.map_eq_some_iff.mp hread
  simp only [Prod.mk.injEq, Option.map_eq_some_iff] at hparts
  obtain ⟨hsuffix, hparallel, found, hfound, hschedule⟩ := hparts
  refine ⟨settings, ok_of_toOption hsettings, hsuffix, hparallel, found, ok_of_toOption hfound, ?_⟩
  simp [Pool.LeavesTime, hschedule]

theorem find_broken : Discovery.find brokenWorld.lookup (Text.of ".surql") brokenWorld.files
    brokenRequest.templates = .ok brokenPaths :=
  ok_of_toOption (by decide +kernel)

theorem load_broken :
    brokenPaths.map (Document.load brokenWorld.files) = brokenDocuments.map .ok := by
  have hplain : Document.load brokenWorld.files plainDocument.path = .ok plainDocument :=
    Document.load_of_parseAll (ok_of_toOption (by decide +kernel))
      (ok_of_toOption (by decide +kernel))
  have hbroken : Document.load brokenWorld.files brokenDocument.path = .ok brokenDocument :=
    Document.load_of_parseAll (ok_of_toOption (by decide +kernel))
      (ok_of_toOption (by decide +kernel))
  simp only [brokenPaths, brokenDocuments, List.map_cons, List.map_nil, hplain, hbroken]

/-- The documents are loaded, in a pool that has time for them, and their headers are listed. -/
theorem run_headers_pooled : ∃ settings,
    readArguments brokenArguments = .ok brokenRequest ∧ brokenRequest.verb = .parse false ∧
      effectiveSettings .standard brokenWorld brokenRequest = .ok settings ∧
      Discovery.find brokenWorld.lookup settings.suffix brokenWorld.files
        brokenRequest.templates = .ok brokenPaths ∧
      brokenPaths ≠ [] ∧
      brokenPaths.map (Document.load brokenWorld.files) = brokenDocuments.map .ok ∧
      Document.inPool settings.parallel brokenPaths = true ∧
      ∃ e, runOn .standard brokenWorld brokenArguments = .ok e ∧ e.code = 0 ∧
        Listing (statementsOf brokenDocuments) e.stdout := by
  obtain ⟨settings, hsettings, hsuffix, hparallel, htime⟩ := exists_settings_broken
  have hne : brokenPaths ≠ [] := by decide
  have hpool : Document.inPool settings.parallel brokenPaths = true := by
    rw [hparallel]
    decide +kernel
  have hpaths : Discovery.find brokenWorld.lookup settings.suffix brokenWorld.files
      brokenRequest.templates = .ok brokenPaths := by rw [hsuffix, find_broken]
  obtain ⟨e, hrun, hcode, hlisting⟩ :=
    run_headers readArguments_broken rfl hsettings hpaths hne load_broken
  have hok : e.code = 0 := hcode.mpr ⟨fun _ => htime, takes_unlimited⟩
  exact ⟨settings, readArguments_broken, rfl, hsettings, hpaths, hne, load_broken, hpool, e, hrun,
    hok, hlisting hok⟩

/-- **One statement on two lines.**  Of the two headers that are printed the second one stands on
two lines, and no two lines make up the text. -/
theorem run_headers_broken :
    brokenPaths.map (Document.load brokenWorld.files) = brokenDocuments.map .ok ∧
      (statementsOf brokenDocuments).length = 2 ∧
      ∃ e, run brokenWorld brokenArguments = .ok e ∧ e.code = 0 ∧
        e.stdout = Text.of "fn::a($x: int)\nfn::b($y: option<record<\x60u\nv\x60>>)\n" ∧
        ¬ ∃ lines : List Text, lines.length = 2 ∧ IsLines lines e.stdout := by
  have hrun : (run brokenWorld brokenArguments).toOption.map (fun e => (e.code, e.stdout)) =
      some (0, Text.of "fn::a($x: int)\nfn::b($y: option<record<\x60u\nv\x60>>)\n") := by
    decide +kernel
  obtain ⟨e, he, heffects⟩ := Option.map_eq_some_iff.mp hrun
  obtain ⟨hcode, hstdout⟩ := Prod.mk.inj heffects
  refine ⟨load_broken, by decide +kernel, e, ok_of_toOption he, hcode, hstdout, ?_⟩
  rintro ⟨lines, hlength, hlines⟩
  have hends := hlines.lineEnds_eq
  have hthree : lineEnds (Text.of "fn::a($x: int)\nfn::b($y: option<record<\x60u\nv\x60>>)\n") =
      3 := by
    decide +kernel
  rw [hstdout, hthree] at hends
  omega

end Command

end StoredFunctions
