import OpenApiClient.Json.Reader
import OpenApiClient.Proofs.LiteralTexts
import OpenApiClient.Proofs.QuotedTexts
import OpenApiClient.Proofs.SerializerCalls

/-!
# Names of properties in generated code

A property is written as the key of an object literal and as an access to a member.  A name that is
an identifier (`isIdentifier`) stands as it is in both, any other name in a string literal.  Read in
this way (`keyTokens?`, `accessTokens?`), both stand for the property of the name that they were
made from (`spellings_denote`).  Identifiers are meant in the sense of the program.  ECMAScript has
a grammar of its own for them, in which `m²` for one is none.
-/

namespace OpenApiClient

/-! ## Literals -/

/-- What a string literal in double quotes denotes, its quotation marks included. -/
def literalTokens? : List Char → Option (List LiteralToken)
  | '"' :: rest =>
    if rest.getLast? = some '"' then readPieces stringPiece? rest.dropLast else none
  | _ => none

/-- An escaped character is read as that character. -/
theorem stringPiece?_escapeChar (c : Char) (rest : List Char) :
    stringPiece? (Quoted.escapeChar c ++ rest) = some (codeTokens c.toNat, rest) := by
  unfold Quoted.escapeChar
  split
  case h_8 hquote hbackslash hline hreturn _ _ _ =>
      split
      next hcontrol =>
        have hdigits := Quoted.fourDigits?_hexDigits hcontrol rest
        have hunit : codeTokens c.toNat = [.unit c.toNat] := by
          rw [codeTokens, codeUnits, if_pos (by omega), List.map_singleton]
        simp [stringPiece?, escapeTokens?, hdigits, hunit]
      next hcontrol =>
        have hplain : ¬ (c = '"' ∨ c = '\n' ∨ c = '\r') := by
          simp only [not_or]
          exact ⟨hquote, hline, hreturn⟩
        rw [List.singleton_append, stringPiece?, if_neg hplain, if_neg hbackslash]
  all_goals rfl

theorem readPieces_flatMap_escapeChar (text : List Char) :
    readPieces stringPiece? (text.flatMap Quoted.escapeChar) = some (textTokens text) := by
  induction text with
  | nil => exact readPieces_nil
  | cons c text ih =>
      have hpiece := stringPiece?_escapeChar c (text.flatMap Quoted.escapeChar)
      have hne : Quoted.escapeChar c ≠ [] := by
        rcases Quoted.escapeChar_cases c with ⟨hself, -⟩ | ⟨escape, hescape, -⟩
        · simp [hself]
        · simp [hescape]
      have hshorter : (text.flatMap Quoted.escapeChar).length <
          (Quoted.escapeChar c ++ text.flatMap Quoted.escapeChar).length := by
        rw [List.length_append]
        exact Nat.lt_add_of_pos_left (List.length_pos_of_ne_nil hne)
      rw [List.flatMap_cons, readPieces_of_piece hpiece hshorter, ih]
      rfl

theorem literalTokens?_quote (text : String) :
    literalTokens? (Quoted.quote text).toList = some (textTokens text.toList) := by
  rw [Quoted.quote, Quoted.quoteChars, String.toList_ofList, List.cons_append, literalTokens?,
    List.getLast?_concat, if_pos rfl, List.dropLast_concat, readPieces_flatMap_escapeChar]

theorem Json.read?_quote (text : String) : read? (Quoted.quote text) = some (.string text) := by
  obtain ⟨literal, hliteral, hread⟩ := Quoted.readString?_quote text []
  rw [List.append_nil] at hread
  have hvalue (fuel depth : Nat) :
      readValue? (fuel + 1) depth ('"' :: literal) = some (.string text, []) := by
    have hspace : skipSpace ('"' :: literal) = '"' :: literal :=
      List.dropWhile_cons_of_neg (by decide)
    rw [readValue?, hspace]
    simp [hread]
  rw [read?, hliteral]
  simp [hvalue, skipSpace]

/-! ## Properties -/

/-- The property that a key of an object literal stands for: an identifier in the sense of
`isIdentifier` stands for itself, and a string literal for what it denotes.  The meaning of its own
that ECMAScript gives to the key `__proto__` is left out. -/
def keyTokens? (key : String) : Option (List LiteralToken) :=
  if isIdentifier key then some (textTokens key.toList) else literalTokens? key.toList

/-- The property that is read by an access to a member: the identifier, in the sense of
`isIdentifier`, after a dot, or what the string literal in brackets denotes. -/
def accessTokens? (access : String) : Option (List LiteralToken) :=
  match access.toList with
  | '.' :: name => if isIdentifier (String.ofList name) then some (textTokens name) else none
  | '[' :: rest => if rest.getLast? = some ']' then literalTokens? rest.dropLast else none
  | _ => none

section Spellings

variable {name : String}

theorem propertyKey_of_isIdentifier (h : isIdentifier name = true) : propertyKey name = name :=
  if_pos h

theorem propertyKey_of_not_isIdentifier (h : isIdentifier name = false) :
    propertyKey name = Quoted.quote name :=
  if_neg (by simp [h])

theorem memberAccess_of_isIdentifier (h : isIdentifier name = true) :
    memberAccess name = "." ++ name :=
  if_pos h

theorem memberAccess_of_not_isIdentifier (h : isIdentifier name = false) :
    memberAccess name = "[" ++ propertyKey name ++ "]" :=
  if_neg (by simp [h])

theorem isIdentifier_quote (text : String) : isIdentifier (Quoted.quote text) = false := by
  rw [← Bool.not_eq_true]
  exact fun h => ne_quote_of_isIdentifier h text rfl

theorem keyTokens?_propertyKey (name : String) :
    keyTokens? (propertyKey name) = some (textTokens name.toList) := by
  unfold keyTokens?
  cases h : isIdentifier name with
  | true => rw [propertyKey_of_isIdentifier h, if_pos h]
  | false =>
      rw [propertyKey_of_not_isIdentifier h, if_neg (by simp [isIdentifier_quote]),
        literalTokens?_quote]

theorem accessTokens?_memberAccess (name : String) :
    accessTokens? (memberAccess name) = some (textTokens name.toList) := by
  unfold accessTokens?
  cases h : isIdentifier name with
  | true =>
      have hchars : (memberAccess name).toList = '.' :: name.toList := by
        simp [memberAccess_of_isIdentifier h]
      simp [hchars, h]
  | false =>
      have hchars : (memberAccess name).toList = '[' :: ((Quoted.quote name).toList ++ [']']) := by
        simp [memberAccess_of_not_isIdentifier h, propertyKey_of_not_isIdentifier h]
      simp [hchars, literalTokens?_quote]

end Spellings

namespace Model

/-- The line for a field of an object, where the field is written as a key and read from a value. -/
theorem exists_returnText_eq {model : Model} {property : Property Model}
    (h : property ∈ model.properties) : ∃ before after, model.returnText =
      String.join [before, "    ", propertyKey property.name, ": ",
        property.view.converted ("value" ++ memberAccess property.name) (!property.isRequired),
        ",\n", after] := by
  obtain ⟨name, description, kind⟩ := model
  cases kind with
  | object properties =>
      obtain ⟨first, rest, rfl⟩ := List.append_of_mem (show property ∈ properties from h)
      let line (property : Property Model) : String :=
        String.join ["    ", propertyKey property.name, ": ", property.convertedText, ",\n"]
      refine ⟨"  return \x7b\n" ++ String.join (first.map line),
        String.join (rest.map line) ++ "  \x7d;\n", ?_⟩
      simp [returnText, line, property.converted_view, String.append_assoc]
  | _ => exact absurd h List.not_mem_nil

/-- The serializers of a client have a line for every field of an object. -/
theorem exists_serializer_mem {api : Api} {files : List GeneratedFile}
    (hfiles : api.renderFiles .builtin = .ok files) {model : Model} (hmodel : model ∈ api.models)
    {serializer : String} (hserializer : model.serializer? = some serializer)
    {property : Property Model} (hproperty : property ∈ model.properties) :
    ∃ before after, ⟨pathIn "serializers/" serializer, String.join [before, "    ",
      propertyKey property.name, ": ",
      property.view.converted ("value" ++ memberAccess property.name) (!property.isRequired),
      ",\n", after]⟩ ∈ files := by
  obtain ⟨before, after, hreturn⟩ := exists_returnText_eq hproperty
  have hmem := Api.serializer_mem hfiles hmodel hserializer
  rw [serializerText, hreturn] at hmem
  refine ⟨String.join ["import type \x7b ", model.typeName, " \x7d from \"../domain\";\n",
    String.join (model.serializerImports.map ModelView.serializerImportText),
    "\nexport function ", serializer, "(value: ", model.typeName, "): unknown \x7b\n", before],
    after ++ "\x7d\n", ?_⟩
  simpa [String.append_assoc] using hmem

end Model

/-- A name is written as a key and as an access to a member: as it stands if it is an identifier,
and otherwise as a string literal, which is read as the name.  So different names are different
keys, and what a serializer writes under the key of a field is what it reads from that field. -/
theorem spellings_denote :
    (∀ name, isIdentifier name = true → propertyKey name = name ∧ memberAccess name = "." ++ name) ∧
    (∀ name, isIdentifier name = false → propertyKey name = Quoted.quote name ∧
      Json.read? (propertyKey name) = some (.string name) ∧
      memberAccess name = "[" ++ propertyKey name ++ "]") ∧
    Function.Injective propertyKey ∧
    (∀ name, keyTokens? (propertyKey name) = some (textTokens name.toList) ∧
      accessTokens? (memberAccess name) = some (textTokens name.toList)) ∧
    ∀ api : Api, ∃ files, api.renderFiles .builtin = .ok files ∧
      ∀ model ∈ api.models, ∀ serializer, model.serializer? = some serializer →
        ∀ property ∈ model.properties, ∃ before after,
          ⟨pathIn "serializers/" serializer, String.join [before, "    ",
            propertyKey property.name, ": ",
            property.view.converted ("value" ++ memberAccess property.name) (!property.isRequired),
            ",\n", after]⟩ ∈ files := by
  refine ⟨fun name h => ⟨propertyKey_of_isIdentifier h, memberAccess_of_isIdentifier h⟩, ?_,
    propertyKey_injective,
    fun name => ⟨keyTokens?_propertyKey name, accessTokens?_memberAccess name⟩, ?_⟩
  · intro name h
    have hkey := propertyKey_of_not_isIdentifier h
    refine ⟨hkey, ?_, memberAccess_of_not_isIdentifier h⟩
    rw [hkey, Json.read?_quote]
  · intro api
    obtain ⟨files, hfiles⟩ := api.exists_renderFiles
    exact ⟨files, hfiles, fun model hmodel serializer hserializer property =>
      Model.exists_serializer_mem hfiles hmodel hserializer⟩

def quotedField : Property Model := ⟨"say \"hi\"", true, none, ⟨none, none, .primitive .string⟩⟩

def greeting : Model := ⟨some "Greeting", none, .object [quotedField]⟩

def greetingApi : Api := ⟨⟨"Greetings", none, "1"⟩, [], [], [greeting]⟩

theorem spellings_denote_on_greeting :
    isIdentifier "id" = true ∧ memberAccess "id" = ".id" ∧
    isIdentifier quotedField.name = false ∧
    Json.read? "\"say \\\"hi\\\"\"" = some (.string "say \"hi\"") ∧
    greeting ∈ greetingApi.models ∧ greeting.serializer? = some "serializeGreeting" ∧
    ∃ files before after, greetingApi.renderFiles .builtin = .ok files ∧
      ⟨"serializers/serializeGreeting.ts", String.join [before,
        "    \"say \\\"hi\\\"\": value[\"say \\\"hi\\\"\"],\n", after]⟩ ∈ files := by
  obtain ⟨hplain, hquoted, -, -, hserializers⟩ := spellings_denote
  have hidentifier : isIdentifier "id" = true := by decide +kernel
  have hother : isIdentifier quotedField.name = false := by decide +kernel
  have hkey : propertyKey quotedField.name = "\"say \\\"hi\\\"\"" := by decide +kernel
  have hmodel : greeting ∈ greetingApi.models := List.mem_singleton_self _
  have hserializer : greeting.serializer? = some "serializeGreeting" := by decide +kernel
  have hline : String.join ["    ", propertyKey quotedField.name, ": ", quotedField.view.converted
      ("value" ++ memberAccess quotedField.name) (!quotedField.isRequired), ",\n"] =
        "    \"say \\\"hi\\\"\": value[\"say \\\"hi\\\"\"],\n" := by decide +kernel
  obtain ⟨files, hfiles, hfields⟩ := hserializers greetingApi
  obtain ⟨before, after, hfile⟩ := hfields greeting hmodel _ hserializer quotedField
    (List.mem_singleton_self _)
  refine ⟨hidentifier, (hplain "id" hidentifier).2, hother, ?_, hmodel, hserializer, files, before,
    after, hfiles, ?_⟩
  · rw [← hkey]
    exact (hquoted _ hother).2.1
  · rw [← hline]
    simpa [pathIn, String.append_assoc] using hfile

end OpenApiClient
