import OpenApiTools.Proofs.Entries
import OpenApiTools.Proofs.Import

/-!
# The security of tools

Of the security schemes that a document declares one is chosen. What it asks for is read off its own
declaration, whatever other schemes stand around it, and a declaration is read for six keys, in two
of which the case of letters does not matter. The choice reaches every tool of the document alike.
-/

namespace OpenApiTools

namespace Text

/-- Texts that differ in the case of ASCII letters compare alike with every text. -/
theorem sameIgnoringAsciiCase_congr {left right : String}
    (same : sameIgnoringAsciiCase left right = true) (other : String) :
    sameIgnoringAsciiCase left other = sameIgnoringAsciiCase right other := by
  rw [sameIgnoringAsciiCase, beq_iff_eq] at same
  rw [sameIgnoringAsciiCase, sameIgnoringAsciiCase, same]

end Text

namespace Security

/-- The keys whose strings are read without regard to the case of ASCII letters. -/
def caselessKeys : List String := ["type", "scheme"]

/-- The other keys that a declaration is read for. -/
def plainKeys : List String := ["name", "in", "bearerFormat", "flows"]

/-- Two declarations in which the same is found under all keys that they are read for, but for the
case of letters where it does not matter. -/
structure Agree (left right : Json) : Prop where
  caseless : ∀ key ∈ caselessKeys, left.get? key = right.get? key ∨
    ∃ text other, left.get? key = some (.string text) ∧ right.get? key = some (.string other) ∧
      Text.sameIgnoringAsciiCase text other = true
  plain : ∀ key ∈ plainKeys, left.get? key = right.get? key

namespace Agree

variable {left right : Json} {key : String}

/-- Strings under a key without regard to case compare alike with every text. -/
theorem getString?_caseless (agree : Agree left right) (isKey : key ∈ caselessKeys)
    (other : String) :
    Text.sameIgnoringAsciiCase ((left.getString? key).getD "") other =
      Text.sameIgnoringAsciiCase ((right.getString? key).getD "") other := by
  rcases agree.caseless key isKey with found | ⟨text, respelled, isLeft, isRight, same⟩
  · rw [Json.getString?, Json.getString?, found]
  · have leftString : left.getString? key = some text := by
      rw [Json.getString?, isLeft]
      rfl
    have rightString : right.getString? key = some respelled := by
      rw [Json.getString?, isRight]
      rfl
    rw [leftString, rightString]
    exact Text.sameIgnoringAsciiCase_congr same other

/-- Strings under the other keys are the same. -/
theorem getString?_plain (agree : Agree left right) (isKey : key ∈ plainKeys) :
    left.getString? key = right.getString? key := by
  rw [Json.getString?, Json.getString?, agree.plain key isKey]

/-- Declarations that agree describe the same scheme. -/
theorem ofScheme_eq (agree : Agree left right) : ofScheme left = ofScheme right := by
  have kind := agree.getString?_caseless (show "type" ∈ caselessKeys by decide)
  have method := agree.getString?_caseless (show "scheme" ∈ caselessKeys by decide)
  have name := agree.getString?_plain (show "name" ∈ plainKeys by decide)
  have location := agree.getString?_plain (show "in" ∈ plainKeys by decide)
  have format := agree.getString?_plain (show "bearerFormat" ∈ plainKeys by decide)
  have sameFlows : flows left = flows right := by
    rw [flows, flows, agree.plain "flows" (by decide)]
  simp only [ofScheme, ofHttpScheme, kind, method, name, location, format, sameFlows]

end Agree

/-- A field may be written in another case in its place. -/
theorem agree_of_respelled {key : String} (isKey : key ∈ caselessKeys) (before after : Fields)
    {text other : String} (same : Text.sameIgnoringAsciiCase text other = true) :
    Agree (.object (before ++ (key, .string text) :: after))
      (.object (before ++ (key, .string other) :: after)) := by
  have found (value : Json) (name : String) :
      (Json.object (before ++ (key, value) :: after)).get? name =
        (Entries.get? name before).or
          (if key = name then some value else Entries.get? name after) :=
    Entries.get?_append name before ((key, value) :: after)
  have elsewhere {name : String} (different : key ≠ name) :
      (Json.object (before ++ (key, .string text) :: after)).get? name =
        (Json.object (before ++ (key, .string other) :: after)).get? name := by
    rw [found, found, if_neg different, if_neg different]
  refine ⟨fun name _ => ?_, fun name isPlain => elsewhere ?_⟩
  · by_cases isField : key = name
    · subst isField
      rw [found, found, if_pos rfl, if_pos rfl]
      -- An earlier field with the key hides the one that is written in another case.
      cases Entries.get? key before with
      | some earlier => exact .inl rfl
      | none => exact .inr ⟨text, other, rfl, rfl, same⟩
    · exact .inl (elsewhere isField)
  · rintro rfl
    have noPlainKey : ∀ key ∈ caselessKeys, key ∉ plainKeys := by decide
    exact noPlainKey key isKey isPlain

/-- Fields may be rearranged, and those under other keys may come and go. -/
theorem agree_of_rearranged {left right : Fields} (distinct : (Entries.keys left).Nodup)
    (rearranged : (left.filter fun field => field.1 ∈ caselessKeys ++ plainKeys).Perm
      (right.filter fun field => field.1 ∈ caselessKeys ++ plainKeys)) :
    Agree (.object left) (.object right) where
  caseless _ isKey :=
    .inl (Entries.get?_eq_of_filter_perm distinct (List.mem_append_left _ isKey) rearranged)
  plain _ isKey :=
    Entries.get?_eq_of_filter_perm distinct (List.mem_append_right _ isKey) rearranged

/-- A way to read declarations that does not depend on how they are written down. -/
structure IgnoresSpelling (descriptor : Json → Security) : Prop where
  /-- The case of ASCII letters in the type and in the HTTP scheme does not matter. -/
  respelled : ∀ key ∈ ["type", "scheme"], ∀ (before after : Fields) (text other : String),
    Text.sameIgnoringAsciiCase text other = true →
    descriptor (.object (before ++ (key, .string text) :: after)) =
      descriptor (.object (before ++ (key, .string other) :: after))
  /-- Neither do the order of the fields and those that are under none of six keys. -/
  rearranged : ∀ left right : Fields, (Entries.keys left).Nodup →
    (left.filter fun field =>
      field.1 ∈ ["type", "scheme", "name", "in", "bearerFormat", "flows"]).Perm
      (right.filter fun field =>
        field.1 ∈ ["type", "scheme", "name", "in", "bearerFormat", "flows"]) →
    descriptor (.object left) = descriptor (.object right)

/-- What a declaration asks for does not depend on how it is written down. -/
theorem ignoresSpelling_ofScheme : IgnoresSpelling ofScheme where
  respelled _ isKey before after _ _ same :=
    (agree_of_respelled isKey before after same).ofScheme_eq
  rearranged _ _ distinct rearranged := (agree_of_rearranged distinct rearranged).ofScheme_eq

end Security

/-- The headers are written as an object, or left out. -/
theorem Tool.get?_toJson_headers (tool : Tool) :
    tool.toJson.get? "headers" =
      tool.headers.map fun headers => .object (headers.mapValues .string) := by
  unfold toJson
  cases tool.headers with
  | none => rfl
  | some headers => rfl

/-- All tools of a set have the headers of its security. -/
theorem Toolset.headers_of_ofDocument {options : Options} {document : Document} {toolset : Toolset}
    (imported : ofDocument options document = .ok toolset) {tool : Tool}
    (isTool : tool ∈ toolset.tools) : tool.headers = toolset.security.headers? := by
  rw [Document.eq_of_tools_eq_ok (parts_of_ofDocument imported).2] at isTool
  obtain ⟨operation, -, rfl⟩ := List.mem_map.mp isTool
  rfl

namespace Document

/-- The first scheme is the one at the head of the list of all schemes. -/
theorem security_first (document : Document) :
    document.security .first = (document.schemes.head?.map Prod.snd).getD .none := by
  rw [security, chosenScheme?, schemes]
  cases document.securitySchemes? with
  | none => rfl
  | some declared =>
    cases declared with
    | nil => rfl
    | cons entry rest => rfl

/-- A scheme with a name is the one under that name in the list of all schemes. -/
theorem security_named (document : Document) (name : String) :
    document.security (.named name) = (document.schemes.get? name).getD .none := by
  rw [security, chosenScheme?, schemes, Entries.get?_mapValues]
  cases document.securitySchemes? with
  | none => rfl
  | some declared => rfl

/-- A document chooses among its schemes by place or by name, and reads the chosen one by itself. -/
structure ChoosesSecurity (document : Document) : Prop where
  /-- The first choice is the head of the list of all schemes, and it is made if there is no other
  wish. -/
  first : document.security .first = (document.schemes.head?.map Prod.snd).getD .none ∧
    document.defaultSecurity = (document.schemes.head?.map Prod.snd).getD .none
  /-- A choice by name is found in the list of all schemes. -/
  named : ∀ name, document.security (.named name) = (document.schemes.get? name).getD .none
  /-- The list has all declared schemes in order. -/
  listed : ∀ declared, document.securitySchemes? = some declared →
    document.schemes = declared.map fun (name, scheme) => (name, .ofScheme scheme)
  /-- Whatever follows the first scheme does not matter to it. -/
  firstAlone : ∀ name scheme others,
    document.securitySchemes? = some ((name, scheme) :: others) →
    document.security .first = .ofScheme scheme
  /-- Whatever other schemes stand before and after a named one do not matter to it. -/
  namedAlone : ∀ before name scheme after,
    document.securitySchemes? = some (before ++ (name, scheme) :: after) →
    name ∉ Entries.keys before → document.security (.named name) = .ofScheme scheme
  /-- A name that is not declared asks for nothing, whatever is. -/
  undeclared : ∀ name, name ∉ document.schemes.keys → document.security (.named name) = .none
  /-- In every import, from the document or from a text that holds it, the security is that of the
  choice, and each tool has the header of an API key with that name, or else none at all. -/
  imported : ∀ options toolset,
    (Toolset.ofDocument options document = .ok toolset ∨
      ∃ text, load text = .ok document ∧ Toolset.ofText options text = .ok toolset) →
    toolset.security = document.security options.security ∧
      ∀ tool ∈ toolset.tools,
        (∀ headerName location, toolset.security = .apiKey headerName location →
          tool.headers = some [(headerName, "PLACEHOLDER_API_KEY")] ∧
          tool.toJson.get? "headers" =
            some (.object [(headerName, .string "PLACEHOLDER_API_KEY")])) ∧
        ((∀ headerName location, toolset.security ≠ .apiKey headerName location) →
          tool.headers = none ∧ tool.toJson.get? "headers" = none)

/-- Every document chooses its security by place or by name and gives it to all of its tools. -/
theorem choosesSecurity (document : Document) : document.ChoosesSecurity where
  first := ⟨document.security_first, document.security_first⟩
  named := document.security_named
  listed declared isDeclared := by
    rw [schemes, isDeclared]
    rfl
  firstAlone name scheme others isDeclared := by
    rw [security_first, schemes, isDeclared]
    rfl
  namedAlone before name scheme after isDeclared isFirst := by
    have notBefore : Entries.get? name before = none := by
      rw [← Option.not_isSome_iff_eq_none]
      exact fun found => isFirst (Entries.has_iff_mem_keys.mp found)
    have found : Entries.get? name (before ++ (name, scheme) :: after) = some scheme := by
      rw [Entries.get?_append, notBefore]
      exact if_pos rfl
    rw [security_named, schemes, isDeclared, Option.getD_some, Entries.get?_mapValues, found]
    rfl
  undeclared name isMissing := by
    have notFound : document.schemes.get? name = none := by
      rw [← Option.not_isSome_iff_eq_none]
      exact fun found => isMissing (Entries.has_iff_mem_keys.mp found)
    rw [security_named, notFound]
    rfl
  imported options toolset imports := by
    have imported : Toolset.ofDocument options document = .ok toolset := by
      rcases imports with imported | ⟨text, loaded, imported⟩
      · exact imported
      · rw [Toolset.ofText, loaded] at imported
        exact imported
    refine ⟨Toolset.security_of_ofDocument imported, fun tool isTool => ?_⟩
    rw [tool.get?_toJson_headers, Toolset.headers_of_ofDocument imported isTool]
    constructor
    · intro headerName location isApiKey
      rw [isApiKey]
      exact ⟨rfl, rfl⟩
    · intro noApiKey
      cases security : toolset.security with
      | apiKey headerName location => exact absurd security (noApiKey headerName location)
      | _ => exact ⟨rfl, rfl⟩

/-- The security of a document is that of the scheme it chooses, by place or by name, and reaches
every tool; what a scheme asks for does not depend on how its declaration is written down. -/
theorem security_of_tools (document : Document) :
    document.ChoosesSecurity ∧ Security.IgnoresSpelling Security.ofScheme :=
  ⟨document.choosesSecurity, Security.ignoresSpelling_ofScheme⟩

/-- A scheme that is chosen by name after another one, with its type in another case and with a key
that does not count: its tools have one header, and it could as well have been written otherwise. -/
theorem security_of_tools_named :
    let scheme (type : String) : Json := .object
      [("in", .string "query"), ("type", .string type), ("name", .string "X-Pets-Key")]
    let described : Json := .object
      [("type", .string "APIKEY"), ("description", .string "a key"),
       ("name", .string "X-Pets-Key"), ("in", .string "query")]
    let document : Document :=
      ⟨[("openapi", .string "3.0.0"), ("servers", .array [.object [("url", .string "https://a")]]),
        ("components", .object [("securitySchemes", .object
          [("bearer", .object [("type", .string "http"), ("scheme", .string "Bearer")]),
           ("key", described)])]),
        ("paths", .object [("/pets", .object [("get", .null), ("post", .null)])])]⟩
    Security.ofScheme (scheme "apiKey") = Security.ofScheme described ∧
      document.security .first = .bearer "JWT" ∧
      document.security (.named "key") = .apiKey "X-Pets-Key" "query" ∧
      document.security (.named "oauth") = .none ∧
      ∃ toolset, Toolset.ofDocument ⟨none, .named "key"⟩ document = .ok toolset ∧
        toolset.tools.length = 2 ∧
        ∀ tool ∈ toolset.tools, tool.headers = some [("X-Pets-Key", "PLACEHOLDER_API_KEY")] := by
  intro scheme described document
  obtain ⟨chooses, ignores⟩ := document.security_of_tools
  have isKey : Security.ofScheme described = .apiKey "X-Pets-Key" "query" := by
    exact if_pos (by decide)
  have named : document.security (.named "key") = .apiKey "X-Pets-Key" "query" :=
    (chooses.namedAlone [("bearer", _)] "key" described [] rfl (by decide)).trans isKey
  obtain ⟨toolset, imported⟩ :
      ∃ toolset, Toolset.ofDocument ⟨none, .named "key"⟩ document = .ok toolset := ⟨_, rfl⟩
  obtain ⟨security, tools⟩ := chooses.imported _ toolset (.inl imported)
  refine ⟨?_, (chooses.firstAlone "bearer" _ _ rfl).trans (by rfl), named,
    chooses.undeclared "oauth" (by decide), toolset, imported, ?_, fun tool isTool => ?_⟩
  · have respelled := ignores.respelled "type" (by decide) [("in", .string "query")]
      [("name", .string "X-Pets-Key")] "apiKey" "APIKEY" (by decide)
    refine respelled.trans (ignores.rearranged _ _ (by decide) ?_)
    exact (List.Perm.swap _ _ _).trans ((List.Perm.swap _ _ _).cons _)
  · rw [eq_of_tools_eq_ok (Toolset.parts_of_ofDocument imported).2]
    rfl
  · exact ((tools tool isTool).1 "X-Pets-Key" "query" (security.trans named)).1

end Document

end OpenApiTools
