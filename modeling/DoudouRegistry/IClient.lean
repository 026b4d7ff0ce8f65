import DoudouRegistry.Strings

/-!
# The generated HTTP client interface

`GenGoIClient` reads the module path from the first line of `go.mod` and fills
the template `iclientTmpl` with the first interface of the service: one method
per service method, taking `ctx` and `_headers` first and then the method's
parameters other than those of type `context.Context`, and returning the `resty`
response before the method's results. Every `{{-` of the template cuts the white
space in front of it, so the text is written here as it comes out.

The file system steps (the `client` directory, the warning before `iclient.go`
is overwritten) and `astutils.FixImport`, which formats the text and writes it,
are left out; `copier.DeepCopy` copies the interface unchanged. The panics that
remain, a service without an interface and a `go.mod` without a line break, are
the `none` results.

`readIClient` reads the text back. It recovers the `vo` package, the interface
name and every method with its parameters and results, in order, whenever no
name or type holds a comma, a closing parenthesis or a line break
(`genGoIClient_reads_back`): the generated interface loses nothing but the
`context.Context` parameters.
-/

namespace DoudouRegistry.IClient

open Strings

/-- `astutils.FieldMeta`: a parameter or a result, with the fields the template reads. -/
structure FieldMeta where
  name : String
  type : String
  deriving DecidableEq, Repr

/-- `astutils.MethodMeta`, with the fields the template reads. -/
structure MethodMeta where
  name : String
  params : List FieldMeta
  results : List FieldMeta
  deriving DecidableEq, Repr

/-- `astutils.InterfaceMeta`, with the fields the template reads. -/
structure InterfaceMeta where
  name : String
  methods : List MethodMeta
  deriving DecidableEq, Repr

/-! ## The template -/

/-- A parameter as `{{- if ne $p.Type "context.Context" }}` writes it. -/
def paramText (p : FieldMeta) : String :=
  if p.type ≠ "context.Context" then p.name ++ " " ++ p.type ++ "," else ""

/-- The result of index `i`, after the comma `{{- if $i}},{{end}}` writes for
every result but the first. -/
def resultText (i : Nat) (r : FieldMeta) : String :=
  (if i = 0 then "" else ",") ++ r.name ++ " " ++ r.type

/-- A method's signature in the generated interface. -/
def signature (m : MethodMeta) : String :=
  m.name ++ "(ctx context.Context, _headers map[string]string," ++
    String.join (m.params.map paramText) ++ ") (_resp *resty.Response," ++
    String.join (m.results.enum.map fun (i, r) => resultText i r) ++ ")"

/-- `iclientTmpl` executed with `VoPackage` and `Meta`. -/
def iclientText (voPackage : String) (meta : InterfaceMeta) : String :=
  "package client\n\nimport (\n\t\"context\"\n\t\"github.com/go-resty/resty/v2\"\n\t\"" ++ voPackage ++
    "\"\n\tv3 \"github.com/unionj-cloud/go-doudou/toolkit/openapi/v3\"\n\t\"os\"\n)\n\ntype I" ++
    meta.name ++ "Client interface \x7b" ++
    String.join (meta.methods.map fun m => "\n\t" ++ signature m) ++ "\n\x7d\n"

/-- `reader.ReadString('\n')` at the start of a file: the first line with its
line break, or the error of a file without one. -/
def readString (content : String) : Option String :=
  match content.data.span (· ≠ '\n') with
  | (line, '\n' :: _) => some ⟨line ++ ['\n']⟩
  | _ => none

/-- The module path of `go.mod`'s first line. -/
def moduleName (firstLine : String) : String := trimSpace (trimPrefix firstLine "module")

/-- `GenGoIClient` up to the text it hands to `astutils.FixImport`; `none` where
it panics: a service without interface, or a `go.mod` without a line break. -/
def genGoIClient (goMod : String) (interfaces : List InterfaceMeta) : Option String := do
  let meta ← interfaces.head?
  let firstLine ← readString goMod
  pure (trimSpace (iclientText (moduleName firstLine ++ "/vo") meta))

/-! ## Reading the text back -/

/-- The rest of `s` after the literal `lit`, when `s` starts with it. -/
def expect : List Char → List Char → Option (List Char)
  | [], s => some s
  | c :: lit, d :: s => if c = d then expect lit s else none
  | _ :: _, [] => none

/-- `s` without the literal `suffix`, when it ends with it. -/
def dropSuffix (suffix s : List Char) : Option (List Char) :=
  (expect suffix.reverse s.reverse).map List.reverse

/-- A field as the template writes it: its name, a space and its type. -/
def FieldMeta.text (f : FieldMeta) : List Char := f.name.data ++ ' ' :: f.type.data

/-- A field read from its name, a space and its type. -/
def readField (text : List Char) : FieldMeta :=
  ⟨⟨text.takeWhile (· ≠ ' ')⟩, ⟨(text.dropWhile (· ≠ ' ')).drop 1⟩⟩

/-- The parameters: fields each closed by a comma. -/
def readParams (text : List Char) : List FieldMeta := (split ',' text).dropLast.map readField

/-- The results: fields between commas, none when the text is empty. -/
def readResults (text : List Char) : List FieldMeta :=
  if text = [] then [] else (split ',' text).map readField

/-- A method read from its signature. -/
def readMethod (line : List Char) : Option MethodMeta := do
  let rest ← expect "(ctx context.Context, _headers map[string]string,".data
    (line.dropWhile (· ≠ '('))
  let rest' ← expect ") (_resp *resty.Response,".data (rest.dropWhile (· ≠ ')'))
  let rest'' ← expect [')'] (rest'.dropWhile (· ≠ ')'))
  if rest'' = [] then
    some ⟨⟨line.takeWhile (· ≠ '(')⟩, readParams (rest.takeWhile (· ≠ ')')),
      readResults (rest'.takeWhile (· ≠ ')'))⟩
  else none

/-- The methods: the lines of the interface's body, each after a tab. -/
def readMethods (body : List Char) : Option (List MethodMeta) :=
  match split '\n' body with
  | [] :: lines => lines.mapM fun
      | '\t' :: line => readMethod line
      | _ => none
  | _ => none

/-- The `vo` package, the interface name and the methods of a generated text. -/
def readIClient (source : String) : Option (String × String × List MethodMeta) := do
  let rest ← expect
    "package client\n\nimport (\n\t\"context\"\n\t\"github.com/go-resty/resty/v2\"\n\t\"".data source.data
  let rest' ← expect
    "\"\n\tv3 \"github.com/unionj-cloud/go-doudou/toolkit/openapi/v3\"\n\t\"os\"\n)\n\ntype I".data
    (rest.dropWhile (· ≠ '"'))
  let body ← expect " interface \x7b".data (rest'.dropWhile (· ≠ ' '))
  let name ← dropSuffix "Client".data (rest'.takeWhile (· ≠ ' '))
  let methods ← dropSuffix "\n\x7d".data body >>= readMethods
  pure (⟨rest.takeWhile (· ≠ '"')⟩, ⟨name⟩, methods)

/-- What the generated interface keeps of a method: its name, its parameters
other than those of type `context.Context`, and its results. -/
def MethodMeta.generated (m : MethodMeta) : MethodMeta :=
  { m with params := m.params.filter (·.type ≠ "context.Context") }

/-- Text that stays apart from what the template writes around it: no comma,
closing parenthesis or line break. -/
def PlainText (s : String) : Prop := ',' ∉ s.data ∧ ')' ∉ s.data ∧ '\n' ∉ s.data

/-- A field that reads back: a plain name without spaces and a plain type. -/
def FieldMeta.Plain (f : FieldMeta) : Prop :=
  PlainText f.name ∧ ' ' ∉ f.name.data ∧ PlainText f.type

/-- A method that reads back: a name without an opening parenthesis or a line
break, and plain parameters and results. -/
def MethodMeta.Plain (m : MethodMeta) : Prop :=
  '(' ∉ m.name.data ∧ '\n' ∉ m.name.data ∧ (∀ p ∈ m.params, p.Plain) ∧ ∀ r ∈ m.results, r.Plain

/-- An interface that reads back: a name without spaces and plain methods. -/
def InterfaceMeta.Plain (meta : InterfaceMeta) : Prop :=
  ' ' ∉ meta.name.data ∧ ∀ m ∈ meta.methods, m.Plain

/-- Whether a text is plain can be decided. -/
instance : DecidablePred PlainText := fun s =>
  inferInstanceAs (Decidable (',' ∉ s.data ∧ ')' ∉ s.data ∧ '\n' ∉ s.data))

/-- Whether a field is plain can be decided. -/
instance : DecidablePred FieldMeta.Plain := fun f =>
  inferInstanceAs (Decidable (PlainText f.name ∧ ' ' ∉ f.name.data ∧ PlainText f.type))

/-- Whether a method is plain can be decided. -/
instance : DecidablePred MethodMeta.Plain := fun m =>
  inferInstanceAs (Decidable ('(' ∉ m.name.data ∧ '\n' ∉ m.name.data ∧ (∀ p ∈ m.params, p.Plain) ∧
    ∀ r ∈ m.results, r.Plain))

/-- Whether an interface is plain can be decided. -/
instance : DecidablePred InterfaceMeta.Plain := fun meta =>
  inferInstanceAs (Decidable (' ' ∉ meta.name.data ∧ ∀ m ∈ meta.methods, m.Plain))

/-! ### Lists of characters -/

/-- Expecting nothing reads nothing. -/
@[simp] theorem expect_nil (s : List Char) : expect [] s = some s := rfl

/-- A matching first character is read and the rest is expected. -/
@[simp] theorem expect_cons_self (c : Char) (lit s : List Char) :
    expect (c :: lit) (c :: s) = expect lit s := by
  simp [expect]

/-- Expecting a literal before the rest reads back the rest. -/
theorem expect_append (lit s : List Char) : expect lit (lit ++ s) = some s := by
  induction lit with
  | nil => rfl
  | cons c lit ih => simp [ih]

/-- Dropping a suffix that is there gives what stands before it. -/
theorem dropSuffix_append (suffix s : List Char) : dropSuffix suffix (s ++ suffix) = some s := by
  simp [dropSuffix, expect_append]

/-- A text without the separator splits into itself alone. -/
theorem split_of_not_mem {sep : Char} {a : List Char} (h : sep ∉ a) : split sep a = [a] := by
  induction a with
  | nil => rfl
  | cons c a ih =>
    have other : c ≠ sep := fun same => h (same ▸ List.mem_cons_self c a)
    simp [split, other, ih (fun member => h (List.mem_cons_of_mem c member))]

/-- A piece without the separator, then the separator, splits off as the first piece. -/
theorem split_append_sep {sep : Char} {a : List Char} (h : sep ∉ a) (rest : List Char) :
    split sep (a ++ sep :: rest) = a :: split sep rest := by
  induction a with
  | nil => simp [split]
  | cons c a ih =>
    have other : c ≠ sep := fun same => h (same ▸ List.mem_cons_self c a)
    simp [split, other, ih (fun member => h (List.mem_cons_of_mem c member))]

/-- Fields after a first one, each behind the separator, split back. -/
theorem split_prefix_flatMap {sep : Char} {a : List Char} {es : List (List Char)} (h : sep ∉ a)
    (hs : ∀ e ∈ es, sep ∉ e) : split sep (a ++ es.flatMap (sep :: ·)) = a :: es := by
  induction es generalizing a with
  | nil => simpa using split_of_not_mem h
  | cons e es ih =>
    rw [List.flatMap_cons, List.cons_append, split_append_sep h,
      ih (hs e (List.mem_cons_self e es)) fun e' member => hs e' (List.mem_cons_of_mem e member)]

/-- Fields each closed by the separator split back, with an empty last field. -/
theorem split_flatMap_append {sep : Char} {es : List (List Char)} (hs : ∀ e ∈ es, sep ∉ e) :
    split sep (es.flatMap (· ++ [sep])) = es ++ [[]] := by
  induction es with
  | nil => rfl
  | cons e es ih =>
    rw [List.flatMap_cons, List.append_assoc, List.singleton_append,
      split_append_sep (hs e (List.mem_cons_self e es)),
      ih fun e' member => hs e' (List.mem_cons_of_mem e member)]
    rfl

/-- A literal that starts with `c` ends the scan for `c` at once. -/
theorem takeWhile_ne_of_head {c : Char} {lit : List Char} (start : lit.head? = some c) (s : List Char) :
    (lit ++ s).takeWhile (· ≠ c) = [] := by
  obtain _ | ⟨x, lit⟩ := lit <;> simp_all

/-- A text that starts with the character is left whole by dropping up to it. -/
theorem dropWhile_ne_of_head {c : Char} {lit : List Char} (start : lit.head? = some c) (s : List Char) :
    (lit ++ s).dropWhile (· ≠ c) = lit ++ s := by
  obtain _ | ⟨x, lit⟩ := lit <;> simp_all [List.dropWhile]

/-- The characters of a joined list are those of its strings, one after the other. -/
theorem data_stringJoin (l : List String) : (String.join l).data = (l.map String.data).flatten := by
  suffices from_start : ∀ s : String,
      (l.foldl (· ++ ·) s).data = s.data ++ (l.map String.data).flatten from from_start ""
  induction l with
  | nil => simp
  | cons x l ih => intro s; simp [ih, List.append_assoc]

/-! ### The template's pieces read back -/

/-- A plain field writes no comma, no closing bracket and no line break. -/
theorem FieldMeta.Plain.not_mem_text {f : FieldMeta} (plain : f.Plain) :
    ',' ∉ f.text ∧ ')' ∉ f.text ∧ '\n' ∉ f.text := by
  obtain ⟨⟨n₁, n₂, n₃⟩, -, ⟨t₁, t₂, t₃⟩⟩ := plain
  simp [FieldMeta.text, n₁, n₂, n₃, t₁, t₂, t₃]

/-- A field the template writes reads back. -/
theorem readField_text {f : FieldMeta} (plain : f.Plain) : readField f.text = f := by
  simp only [readField, FieldMeta.text, takeWhile_ne_append plain.2.1, dropWhile_ne_append plain.2.1]
  rfl

/-- The parameters as the template writes them: every one not of type
`context.Context`, each closed by a comma. -/
theorem params_data (ps : List FieldMeta) :
    (String.join (ps.map paramText)).data =
      (ps.filter (·.type ≠ "context.Context")).flatMap fun p => p.text ++ [','] := by
  rw [data_stringJoin]
  induction ps with
  | nil => rfl
  | cons p ps ih =>
    rw [List.map_cons, List.map_cons, List.flatten_cons, ih, List.filter_cons]
    by_cases context : p.type = "context.Context"
    · simp [paramText, context]
    · simp [paramText, context, FieldMeta.text]

/-- The results as the template writes them: a comma between two. -/
theorem results_data (r : FieldMeta) (rs : List FieldMeta) :
    (String.join ((r :: rs).enum.map fun (i, r) => resultText i r)).data =
      r.text ++ rs.flatMap fun r => ',' :: r.text := by
  have later : ∀ k : Nat, (String.join ((rs.enumFrom (k + 1)).map fun (i, r) => resultText i r)).data =
      rs.flatMap fun r => ',' :: r.text := by
    induction rs with
    | nil => simp
    | cons r' rs ih =>
      intro k
      rw [List.enumFrom_cons, List.map_cons, data_stringJoin, List.map_cons, List.flatten_cons,
        ← data_stringJoin, ih (k + 1)]
      simp [resultText, FieldMeta.text]
  rw [List.enum_cons, List.map_cons, data_stringJoin, List.map_cons, List.flatten_cons,
    ← data_stringJoin, later 0]
  simp [resultText, FieldMeta.text]

/-- A character other than the comma that no parameter writes is not in the parameter list. -/
theorem not_mem_params {c : Char} {ps : List FieldMeta} (h : ∀ p ∈ ps, c ∉ p.text) (comma : c ≠ ',') :
    c ∉ (String.join (ps.map paramText)).data := by
  rw [params_data]
  simp only [List.mem_flatMap, List.mem_append, List.mem_singleton, comma, or_false, not_exists,
    not_and]
  exact fun p member => h p (List.mem_of_mem_filter member)

/-- A character other than the comma that no result writes is not in the result list. -/
theorem not_mem_results {c : Char} {rs : List FieldMeta} (h : ∀ r ∈ rs, c ∉ r.text) (comma : c ≠ ',') :
    c ∉ (String.join (rs.enum.map fun (i, r) => resultText i r)).data := by
  cases rs with
  | nil => simp
  | cons r rs =>
    rw [results_data]
    simp only [List.mem_append, List.mem_flatMap, List.mem_cons, comma, false_or, not_or, not_exists,
      not_and]
    exact ⟨h r (List.mem_cons_self r rs), fun r' member => h r' (List.mem_cons_of_mem r member)⟩

/-- Reading plain parameters back from their text gives them back. -/
theorem readParams_text {ps : List FieldMeta} (plain : ∀ p ∈ ps, p.Plain) :
    readParams (ps.flatMap fun p => p.text ++ [',']) = ps := by
  have commas : ∀ e ∈ ps.map FieldMeta.text, ',' ∉ e :=
    List.forall_mem_map.mpr fun p member => (plain p member).not_mem_text.1
  rw [readParams, ← List.flatMap_map FieldMeta.text (· ++ [',']), split_flatMap_append commas,
    List.dropLast_concat, List.map_map]
  exact (List.map_congr_left fun p member => readField_text (plain p member)).trans (List.map_id ps)

/-- Reading plain results back from their text gives them back. -/
theorem readResults_text {rs : List FieldMeta} (plain : ∀ r ∈ rs, r.Plain) :
    readResults (String.join (rs.enum.map fun (i, r) => resultText i r)).data = rs := by
  cases rs with
  | nil => rfl
  | cons r rs =>
    have first := plain r (List.mem_cons_self r rs)
    have commas : ∀ e ∈ rs.map FieldMeta.text, ',' ∉ e :=
      List.forall_mem_map.mpr fun r' member => (plain r' (List.mem_cons_of_mem r member)).not_mem_text.1
    rw [results_data, readResults, if_neg (by simp [FieldMeta.text]),
      ← List.flatMap_map FieldMeta.text (',' :: ·), split_prefix_flatMap first.not_mem_text.1 commas,
      List.map_cons, List.map_map, readField_text first]
    exact congrArg _ ((List.map_congr_left fun r' member =>
      readField_text (plain r' (List.mem_cons_of_mem r member))).trans (List.map_id rs))

/-- A signature reads back as the method without its `context.Context` parameters. -/
theorem readMethod_signature {m : MethodMeta} (plain : m.Plain) :
    readMethod (signature m).data = some m.generated := by
  obtain ⟨name, -, params, results⟩ := plain
  have paren₁ : ')' ∉ (String.join (m.params.map paramText)).data :=
    not_mem_params (fun p member => (params p member).not_mem_text.2.1) (by decide)
  have paren₂ : ')' ∉ (String.join (m.results.enum.map fun (i, r) => resultText i r)).data :=
    not_mem_results (fun r member => (results r member).not_mem_text.2.1) (by decide)
  simp only [signature, readMethod, String.data_append, List.append_assoc, List.cons_append,
    List.nil_append, dropWhile_ne_append name, takeWhile_ne_append name, dropWhile_ne_append paren₁,
    takeWhile_ne_append paren₁, dropWhile_ne_append paren₂, takeWhile_ne_append paren₂,
    expect_cons_self, expect_nil, Option.bind_eq_bind, Option.some_bind, ↓reduceIte]
  rw [params_data, readParams_text fun p member => params p (List.mem_of_mem_filter member),
    readResults_text results]
  rfl

/-- The signature of a plain method fits on one line. -/
theorem newline_not_mem_signature {m : MethodMeta} (plain : m.Plain) : '\n' ∉ (signature m).data := by
  obtain ⟨-, name, params, results⟩ := plain
  have inParams : '\n' ∉ (String.join (m.params.map paramText)).data :=
    not_mem_params (fun p member => (params p member).not_mem_text.2.2) (by decide)
  have inResults : '\n' ∉ (String.join (m.results.enum.map fun (i, r) => resultText i r)).data :=
    not_mem_results (fun r member => (results r member).not_mem_text.2.2) (by decide)
  simp only [signature, String.data_append, List.mem_append, not_or]
  exact ⟨⟨⟨⟨⟨name, by decide⟩, inParams⟩, by decide⟩, inResults⟩, by decide⟩

/-- The interface's body reads back, one method a line. -/
theorem readMethods_text {ms : List MethodMeta} (plain : ∀ m ∈ ms, m.Plain) :
    readMethods (String.join (ms.map fun m => "\n\t" ++ signature m)).data =
      some (ms.map MethodMeta.generated) := by
  have lines : (String.join (ms.map fun m => "\n\t" ++ signature m)).data =
      [] ++ (ms.map fun m => '\t' :: (signature m).data).flatMap ('\n' :: ·) := by
    simp [data_stringJoin, List.flatMap, Function.comp_def]
  have breaks : ∀ line ∈ ms.map fun m => '\t' :: (signature m).data, '\n' ∉ line :=
    List.forall_mem_map.mpr fun m member =>
      List.not_mem_cons_of_ne_of_not_mem (by decide) (newline_not_mem_signature (plain m member))
  rw [readMethods, lines, split_prefix_flatMap (List.not_mem_nil _) breaks]
  dsimp only
  clear lines breaks
  induction ms with
  | nil => rfl
  | cons m ms ih =>
    simp only [List.map_cons, List.mapM_cons, readMethod_signature (plain m (List.mem_cons_self m ms)),
      ih fun m' member => plain m' (List.mem_cons_of_mem m member), Option.bind_eq_bind, Option.some_bind]
    rfl

/-! ### The whole file -/

/-- The text the template writes, cut by `strings.TrimSpace`, reads back. The
literal parts are matched whole: `simp -proj` leaves them unexpanded. -/
theorem readIClient_iclientText {voPackage : String} {meta : InterfaceMeta} (vo : '"' ∉ voPackage.data)
    (plain : meta.Plain) :
    readIClient (trimSpace (iclientText voPackage meta)) =
      some (voPackage, meta.name, meta.methods.map MethodMeta.generated) := by
  obtain ⟨name, methods⟩ := plain
  have whole : iclientText voPackage meta =
      "package client\n\nimport (\n\t\"context\"\n\t\"github.com/go-resty/resty/v2\"\n\t\"" ++ voPackage ++
        "\"\n\tv3 \"github.com/unionj-cloud/go-doudou/toolkit/openapi/v3\"\n\t\"os\"\n)\n\ntype I" ++
        meta.name ++ "Client" ++ " interface \x7b" ++
        String.join (meta.methods.map fun m => "\n\t" ++ signature m) ++ "\n\x7d" ++ "\n" := by
    simp only [iclientText, String.append_assoc]
    rfl
  have readBody := readMethods_text methods
  rw [whole]
  generalize String.join (meta.methods.map fun m => "\n\t" ++ signature m) = body at readBody ⊢
  generalize text_def :
      "package client\n\nimport (\n\t\"context\"\n\t\"github.com/go-resty/resty/v2\"\n\t\"" ++ voPackage ++
        "\"\n\tv3 \"github.com/unionj-cloud/go-doudou/toolkit/openapi/v3\"\n\t\"os\"\n)\n\ntype I" ++
        meta.name ++ "Client" ++ " interface \x7b" ++ body ++ "\n\x7d" = text
  have first : ∀ c ∈ text.data.head?, isSpace c = false := by
    simp -proj only [← text_def, String.data_append, List.append_assoc]
    rw [List.head?_append_of_ne_nil _ (by decide)]
    intro c member
    obtain rfl : 'p' = c := Option.some.inj member
    decide
  have last : ∀ c ∈ text.data.getLast?, isSpace c = false := by
    rw [← text_def, String.data_append, List.getLast?_append_of_ne_nil _ (by decide)]
    intro c member
    obtain rfl : '}' = c := Option.some.inj member
    decide
  rw [show text ++ "\n" = ⟨[] ++ text.data ++ ['\n']⟩ from rfl,
    trimSpace_ends (List.forall_mem_nil _) (by decide) first last, show String.mk text.data = text from rfl,
    ← text_def]
  have client : ' ' ∉ "Client".data := by decide
  have quote : "\"\n\tv3 \"github.com/unionj-cloud/go-doudou/toolkit/openapi/v3\"\n\t\"os\"\n)\n\ntype I".data.head? =
      some '"' := rfl
  have space : " interface \x7b".data.head? = some ' ' := rfl
  simp -proj only [readIClient, String.data_append, List.append_assoc, expect_append,
    Option.bind_eq_bind, Option.some_bind,
    List.takeWhile_append_of_pos (forall_decide_ne_of_not_mem vo),
    List.dropWhile_append_of_pos (forall_decide_ne_of_not_mem vo),
    List.takeWhile_append_of_pos (forall_decide_ne_of_not_mem name),
    List.dropWhile_append_of_pos (forall_decide_ne_of_not_mem name),
    List.takeWhile_append_of_pos (forall_decide_ne_of_not_mem client),
    List.dropWhile_append_of_pos (forall_decide_ne_of_not_mem client),
    takeWhile_ne_of_head quote, dropWhile_ne_of_head quote, takeWhile_ne_of_head space,
    dropWhile_ne_of_head space,
    List.append_nil, dropSuffix_append, readBody]
  rfl

/-- `ReadString('\n')` stops at the first line break. -/
theorem readString_first_line {line : String} (single : '\n' ∉ line.data) (rest : String) :
    readString (line ++ "\n" ++ rest) = some (line ++ "\n") := by
  simp only [readString, String.data_append, List.span_eq_take_drop, List.append_assoc,
    List.singleton_append, takeWhile_ne_append single, dropWhile_ne_append single]
  rfl

/-- The module path of a `module` line, whatever white space surrounds it. -/
theorem moduleName_line {ws₁ path ws₂ : String}
    (blank : ∀ c ∈ ws₁.data ++ ws₂.data, isSpace c = true)
    (modulePath : ∀ c ∈ path.data, isSpace c = false) :
    moduleName ("module" ++ ws₁ ++ path ++ ws₂ ++ "\n") = path := by
  rw [moduleName, String.append_assoc, String.append_assoc, String.append_assoc, trimPrefix_append]
  have after : ∀ c ∈ ws₂.data ++ ['\n'], isSpace c = true := by
    intro c member
    rcases List.mem_append.mp member with spaced | newline
    · exact blank c (List.mem_append_right _ spaced)
    · rw [List.mem_singleton.mp newline]
      decide
  have key : trimSpace ⟨ws₁.data ++ path.data ++ (ws₂.data ++ ['\n'])⟩ = path :=
    trimSpace_ends (fun c member => blank c (List.mem_append_left _ member)) after
      (fun c member => modulePath c (List.mem_of_mem_head? member))
      (fun c member => modulePath c (List.mem_of_mem_getLast? member))
  rwa [show ws₁ ++ (path ++ (ws₂ ++ "\n")) = ⟨ws₁.data ++ path.data ++ (ws₂.data ++ ['\n'])⟩ from
    String.ext (by simp)]

/-- For a `go.mod` whose first line is `module` and the module path, and a
service whose first interface has plain names and types, the text
`GenGoIClient` generates reads back as the module's `vo` package, the interface's
name and all its methods, in order, each with its parameters other than those of
type `context.Context`, in order, and its results, in order. -/
theorem genGoIClient_reads_back {ws₁ path ws₂ : String} (rest : String) {meta : InterfaceMeta}
    (others : List InterfaceMeta) (blank : ∀ c ∈ ws₁.data ++ ws₂.data, isSpace c = true ∧ c ≠ '\n')
    (modulePath : ∀ c ∈ path.data, isSpace c = false ∧ c ≠ '"') (plain : meta.Plain) :
    (genGoIClient ("module" ++ ws₁ ++ path ++ ws₂ ++ "\n" ++ rest) (meta :: others)).bind readIClient =
      some (path ++ "/vo", meta.name, meta.methods.map MethodMeta.generated) := by
  have single : '\n' ∉ ("module" ++ ws₁ ++ path ++ ws₂).data := by
    simp only [String.data_append, List.mem_append, not_or]
    refine ⟨⟨⟨by decide, fun member => (blank _ (List.mem_append_left _ member)).2 rfl⟩,
      fun member => ?_⟩, fun member => (blank _ (List.mem_append_right _ member)).2 rfl⟩
    exact absurd (modulePath _ member).1 (by decide)
  have vo : '"' ∉ (path ++ "/vo").data := by
    simp only [String.data_append, List.mem_append, not_or]
    exact ⟨fun member => (modulePath _ member).2 rfl, by decide⟩
  simp only [genGoIClient, List.head?_cons, readString_first_line single,
    moduleName_line (fun c member => (blank c member).1) fun c member => (modulePath c member).1,
    Option.bind_eq_bind, Option.some_bind, Option.pure_def]
  exact readIClient_iclientText vo plain

/-- The service `User` of module `example.com/user`: one method taking a context
and an id, returning a user and an error. -/
def userService : InterfaceMeta :=
  ⟨"User", [⟨"GetUser", [⟨"ctx", "context.Context"⟩, ⟨"id", "int"⟩],
    [⟨"user", "vo.User"⟩, ⟨"err", "error"⟩]⟩]⟩

/-- The client generated for `User` reads back as the service less its context parameter. -/
theorem user_client_reads_back :
    (∀ c ∈ " ".data ++ "".data, isSpace c = true ∧ c ≠ '\n') ∧
      (∀ c ∈ "example.com/user".data, isSpace c = false ∧ c ≠ '"') ∧ userService.Plain ∧
      (genGoIClient ("module" ++ " " ++ "example.com/user" ++ "" ++ "\n" ++ "go 1.16\n")
          [userService]).bind readIClient =
        some ("example.com/user/vo", "User",
          [⟨"GetUser", [⟨"id", "int"⟩], [⟨"user", "vo.User"⟩, ⟨"err", "error"⟩]⟩]) :=
  have blank : ∀ c ∈ " ".data ++ "".data, isSpace c = true ∧ c ≠ '\n' := by decide
  have modulePath : ∀ c ∈ "example.com/user".data, isSpace c = false ∧ c ≠ '"' := by decide
  have plain : userService.Plain := by decide
  ⟨blank, modulePath, plain, by
    rw [genGoIClient_reads_back "go 1.16\n" [] blank modulePath plain]
    decide⟩

end DoudouRegistry.IClient
