import Autoscaler.Proofs.ConfigFile
import Autoscaler.Proofs.Json.Limits
import Autoscaler.Proofs.Json.Respelling
import Autoscaler.Proofs.Params.Values
import Autoscaler.Proofs.Yaml.Lines

/-!
# The two forms of default parameters

A configuration file may give the default parameters as a mapping or as JSON text. A JSON object on
one line is both: as it is, it is a mapping of YAML, and between single quotes it is a text. The
files give the same parameters (`load_mapping_eq_load_literal`) unless YAML takes a number for a
text, or keeps two spellings of a name apart (`load_mapping_ne_load_literal`).
-/

namespace Autoscaler

open Json

/-- What a value that is a document is made as a parameter map: what the document itself is. -/
theorem ParamMap.ofValue?_toValue {k : Json} {m : ParamMap}
    (made : ParamMap.ofValue? k.toValue = .ok m) :
    (Params.ofJson k.paired.collapsed).map ParamMap.ofTexts = .ok m := by
  cases encoded : Json.ofValue? .asGiven k.toValue with
  | error e =>
      rw [ParamMap.ofValue?, encoded] at made
      cases e <;> cases made
  | ok j =>
      obtain rfl := eq_of_encodeTo_asGiven encoded
      rw [← ParamMap.ofValue?_of_encoded encoded, made]

/-- A text in the grammar that JSON shares with YAML gives the parameters of its document. -/
theorem Params.parse_of_shared {s : Text} {k : Json} {es : List (Text × Text)}
    (document : Shared.Document s k) (scalar : ∀ c ∈ s, c.isSurrogate = false)
    (parsed : Params.parse s = .ok es) :
    Params.ofJson k.paired.collapsed = .ok es := by
  unfold Params.parse at parsed
  split at parsed
  next => cases parsed
  next => cases parsed
  next j read => rwa [← eq_collapsed_of_read (document.grammar scalar) read]

namespace ConfigFile

open Yaml (IsOneLine singleQuote doubled)
open Yaml.Lexer (lineKey lineFront IsEnding)

/-- A line that gives the default parameters as a mapping. -/
def mappingLine (s : Text) : Text := lineFront ++ s

/-- A line that gives the default parameters as text between single quotes. -/
def literalLine (s : Text) : Text := lineFront ++ singleQuote :: (doubled s ++ [singleQuote])

variable {files files' : Files} {path path' s ending ending' : Text} {k : Json}
  {ms : List (Text × Json)} {values values' : List (Field × Value)}

theorem fieldOf?_lineKey : fieldOf? (.text lineKey) = some .defaultParams := by decide

/-- A file with the default parameters alone gives the parameter map that they are made. -/
theorem exists_of_load {bytes : List UInt8} (found : readBytes files path = .ok bytes)
    (loaded : (load files path).result = .ok values) :
    ∃ w, Yaml.read (.ofFile (.ofBytes bytes)) = .ok w ∧ ∀ v, w = .map [(.text lineKey, v)] →
      ∃ m, paramsOf v = .ok m ∧ values = [(.defaultParams, .params m)] := by
  obtain ⟨es, content, given⟩ := load_eq_ok_iff.mp loaded
  rw [ConfigFile.content, found] at content
  refine ⟨_, mapError_eq_ok_iff.mp content, ?_⟩
  rintro v ⟨⟩
  cases entryValues_eq_ok_iff.mp given with
  | @cons _ e _ _ here others =>
      cases others
      obtain ⟨f, w⟩ := e
      obtain ⟨field, _, value⟩ := here
      obtain rfl : Field.defaultParams = f :=
        Option.some.inj (fieldOf?_lineKey.symm.trans field)
      rcases entryValue_eq_ok_iff.mp value with ⟨-, m, made, -, rfl⟩ | ⟨other, -⟩
      · exact ⟨m, made, rfl⟩
      · exact absurd rfl other

theorem noReturn_line (oneLine : IsOneLine s) (isEnding : IsEnding ending) :
    ∀ c ∈ lineFront ++ s ++ ending, c ≠ CodePoint.ofChar '\r' := by
  rintro _ member rfl
  rcases List.mem_append.mp member with member | member
  · rcases List.mem_append.mp member with member | member
    · exact absurd member (by decide)
    · exact (oneLine _ member).2 rfl
  · rcases isEnding with rfl | rfl
    · cases member
    · exact absurd member (by decide)

theorem isOneLine_literal (oneLine : IsOneLine s) :
    IsOneLine (singleQuote :: (doubled s ++ [singleQuote])) := by
  have quote : Yaml.isBreak singleQuote = false ∧ singleQuote ≠ CodePoint.ofChar '\r' := by decide
  refine List.forall_mem_cons.mpr ⟨quote, List.forall_mem_append.mpr ⟨oneLine.doubled, ?_⟩⟩
  exact List.forall_mem_singleton.mpr quote

/-- A JSON object on one line gives the same default parameters as a mapping and as text between
single quotes, if both files are loaded: those that the object itself gives. Every number with an
exponent has a point and a sign in the exponent, and no last member of a name takes up a spelling
of the name that another one came after. -/
theorem load_mapping_eq_load_literal (oneLine : IsOneLine s)
    (document : Shared.Document s (.object ms)) (steady : Everywhere IsSteady (.object ms))
    (isEnding : IsEnding ending) (isEnding' : IsEnding ending')
    (mapping : readBytes files path = .ok (Utf8.encode (mappingLine s ++ ending)))
    (literal : readBytes files' path' = .ok (Utf8.encode (literalLine s ++ ending')))
    (loaded : (load files path).result = .ok values)
    (loaded' : (load files' path').result = .ok values') :
    ∃ es, Params.parse s = .ok es ∧
      values = [(.defaultParams, .params (ParamMap.ofTexts es))] ∧ values' = values := by
  obtain ⟨w, denotes, given⟩ := exists_of_load mapping loaded
  obtain ⟨w', denotes', given'⟩ := exists_of_load literal loaded'
  have lines : ∀ ts, Yaml.Lexer.Scans (.start (mappingLine s ++ ending)) ts →
      Yaml.Lexer.LineScans (.object ms) ts := by
    intro ts scans
    rw [mappingLine, List.append_assoc] at scans
    exact Yaml.Lexer.lineScans_of_document rfl document oneLine isEnding scans
  have lines' : ∀ ts, Yaml.Lexer.Scans (.start (literalLine s ++ ending')) ts →
      Yaml.Lexer.LineScans (.text s) ts := by
    intro ts scans
    rw [literalLine, List.append_assoc, List.cons_append, List.append_assoc] at scans
    exact Yaml.Lexer.lineScans_of_literal oneLine isEnding' scans
  obtain ⟨scalar, value⟩ :=
    Yaml.eq_of_read_line (noReturn_line oneLine isEnding) lines denotes
  obtain ⟨_, value'⟩ :=
    Yaml.eq_of_read_line (noReturn_line (isOneLine_literal oneLine) isEnding') lines' denotes'
  obtain ⟨m, made, rfl⟩ := given _ value
  obtain ⟨m', made', rfl⟩ := given' _ value'
  have scalar' : ∀ c ∈ s, c.isSurrogate = false := fun c member =>
    scalar c (List.mem_append_left _ (List.mem_append_right _ member))
  -- What is made of the mapping is what its collapsed document is made.
  have ofMapping : (Params.ofJson (Json.object ms).paired.collapsed).map ParamMap.ofTexts =
      .ok m := by
    rw [← collapsed_paired_collapsed steady]
    exact ParamMap.ofValue?_toValue (mapError_eq_ok_iff.mp made)
  obtain ⟨es, parsed, rfl⟩ := exists_of_map_eq_ok (mapError_eq_ok_iff.mp made')
  have ofLiteral := Params.parse_of_shared document scalar' parsed
  rw [ofLiteral] at ofMapping
  cases ofMapping
  exact ⟨es, parsed, rfl, rfl⟩

/-- A file at a path. -/
def fileAt (path s : Text) : Files := [([path], .file (Utf8.encode s))]

theorem isOneLine_of_all
    (all : (s.all fun c => !Yaml.isBreak c && c ≠ CodePoint.ofChar '\r') = true) : IsOneLine s := by
  intro c member
  have here := List.all_eq_true.mp all c member
  rw [Bool.and_eq_true, Bool.not_eq_true', decide_eq_true_iff] at here
  exact here

theorem exists_of_isOk {ε α : Type} {r : Except ε α} (isOk : r.isOk = true) : ∃ x, r = .ok x := by
  cases r with
  | error e => cases isOk
  | ok x => exact ⟨x, rfl⟩

/-- A name with a quote in it, and a number with an exponent. -/
theorem load_mapping_eq_load_literal_quote :
    let s : Text := "\x7b\"it's\":-1.5e+3\x7d"
    let ms : List (Text × Json) := [("it's", .float (.ofDecimal true 15 2))]
    let files := fileAt "c.yaml" (mappingLine s ++ "\n")
    let files' := fileAt "c.yaml" (literalLine s)
    ∃ values values', IsOneLine s ∧ Shared.Document s (.object ms) ∧
      Everywhere IsSteady (.object ms) ∧
      readBytes files "c.yaml" = .ok (Utf8.encode (mappingLine s ++ "\n")) ∧
      readBytes files' "c.yaml" = .ok (Utf8.encode (literalLine s ++ [])) ∧
      (load files "c.yaml").result = .ok values ∧ (load files' "c.yaml").result = .ok values' ∧
      values = [(.defaultParams, .params [(.text "it's", .text "-1500.0")])] ∧
      values' = values := by
  intro s ms files files'
  have oneLine : IsOneLine s := isOneLine_of_all (by decide)
  have number : Grammar.Number ("-1.5e+3" : Text) (.float (.ofDecimal true 15 2)) := by
    have whole : Grammar.Whole ['1'] := .digits (by decide) (by decide) (List.forall_mem_nil _)
    have fraction : Grammar.Fraction ['.', '5'] ['5'] :=
      .digits (List.forall_mem_singleton.mpr (by decide))
    have power : Grammar.Exponent ['e', '+', '3'] (some 3) :=
      .digits (.inl rfl) .plus (List.forall_mem_singleton.mpr (by decide))
    have digits : Text.digitsValue ['1', '5'] = 15 := by decide
    have number := Grammar.Number.mk .minus whole fraction power
    simp only [Grammar.numberOf, List.singleton_append, digits, Option.getD_some] at number
    exact number
  have pointed : Shared.IsPointed ("-1.5e+3" : Text) := by decide
  have name : Shared.Units ("it's" : Text) "it's" :=
    .plain (by decide) (by decide) (by decide) <| .plain (by decide) (by decide) (by decide) <|
      .plain (by decide) (by decide) (by decide) <| .plain (by decide) (by decide) (by decide) .nil
  have members : Shared.Members ("\"it's\":-1.5e+3" : Text) ms :=
    .last Grammar.blank_nil name Grammar.blank_nil Grammar.blank_nil
      (.word (.number number pointed)) Grammar.blank_nil
  have document : Shared.Document s (.object ms) :=
    .mk Grammar.blank_nil (.object members) Grammar.blank_nil
  have steady : Everywhere IsSteady (.object ms) := by
    refine .mk (Entries.steadyKeys_singleton _ _) (List.forall_mem_singleton.mpr ?_)
    exact .of_childless rfl trivial
  have mapping : readBytes files "c.yaml" = .ok (Utf8.encode (mappingLine s ++ "\n")) := by
    rfl
  have literal : readBytes files' "c.yaml" = .ok (Utf8.encode (literalLine s ++ [])) := by
    rfl
  obtain ⟨values, loaded⟩ : ∃ values, (load files "c.yaml").result = .ok values :=
    exists_of_isOk (by decide +kernel)
  obtain ⟨values', loaded'⟩ : ∃ values, (load files' "c.yaml").result = .ok values :=
    exists_of_isOk (by decide +kernel)
  have parsed : Params.parse s = .ok [("it's", "-1500.0")] := by decide +kernel
  obtain ⟨es, parsed', equal, same⟩ := load_mapping_eq_load_literal oneLine document steady
    (.inr rfl) (.inl rfl) mapping literal loaded loaded'
  cases parsed.symm.trans parsed'
  exact ⟨values, values', oneLine, document, steady, mapping, literal, loaded, loaded', equal, same⟩

/-- Whether a text of parameters on one line gives a file something else as a mapping than between
single quotes, and what is shown of the two. -/
def FormsDiffer (s shown shown' : Text) : Prop :=
  IsOneLine s ∧ (∃ es, Params.parse s = .ok es) ∧ ∃ values values',
    (load (fileAt "c.yaml" (mappingLine s ++ "\n")) "c.yaml").result = .ok values ∧
    (load (fileAt "c.yaml" (literalLine s ++ "\n")) "c.yaml").result = .ok values' ∧
    (values.map fun v => (v.1, v.2.display)) = [(.defaultParams, shown)] ∧
    (values'.map fun v => (v.1, v.2.display)) = [(.defaultParams, shown')] ∧ values ≠ values'

/-- Two results are apart if they are shown differently. -/
theorem exists_ne_of_shown {ε α β : Type} {r r' : Except ε α} {f : α → β} {b b' : β}
    (shown : r.toOption.map f = some b) (shown' : r'.toOption.map f = some b') (apart : b ≠ b') :
    ∃ x x', r = .ok x ∧ r' = .ok x' ∧ f x = b ∧ f x' = b' ∧ x ≠ x' := by
  cases r with
  | error e => cases shown
  | ok x =>
      cases r' with
      | error e => cases shown'
      | ok x' =>
          obtain rfl := Option.some.inj shown
          obtain rfl := Option.some.inj shown'
          exact ⟨x, x', rfl, rfl, rfl, rfl, fun same => apart (congrArg f same)⟩

/-- The two forms differ where a number has an exponent without a point or without a sign, which is
a text in YAML, and where a name comes again in a spelling that came before another one. -/
theorem load_mapping_ne_load_literal :
    FormsDiffer "\x7b\"a\":1e5\x7d" "\x7b'a': '\"1e5\"'\x7d" "\x7b'a': '100000.0'\x7d" ∧
    FormsDiffer "\x7b\"a\":1e+5\x7d" "\x7b'a': '\"1e+5\"'\x7d" "\x7b'a': '100000.0'\x7d" ∧
    FormsDiffer "\x7b\"a\":1.5e5\x7d" "\x7b'a': '\"1.5e5\"'\x7d" "\x7b'a': '150000.0'\x7d" ∧
    FormsDiffer "\x7b\"\\ud83d\\ude00\":1,\"😀\":2,\"\\ud83d\\ude00\":3\x7d"
      "\x7b'😀': '2'\x7d" "\x7b'😀': '3'\x7d" := by
  refine ⟨?noPointOrSign, ?noPoint, ?noSign, ?spellings⟩
  all_goals
    refine ⟨isOneLine_of_all (by decide), exists_of_isOk (by decide +kernel), ?_⟩
    exact exists_ne_of_shown (by decide +kernel) (by decide +kernel) (by decide)

end ConfigFile

end Autoscaler
