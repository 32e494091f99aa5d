import OpenApiTools.Proofs.Placeholder

/-!
# Occurrences of placeholders

A placeholder occurs wherever a name stands in braces, whatever stands around it. The placeholders
of a text are its occurrences from left to right. A search that takes the leftmost placeholder and
starts over behind its closing brace finds them all the same: what it passes over is a name and a
closing brace, and no placeholder begins with one of their characters.
-/

namespace OpenApiTools.Placeholder

/-- What stands between the braces: word characters, and at least one of them. -/
structure IsName (name : List Char) : Prop where
  nonempty : name ≠ []
  word : ∀ c ∈ name, Text.isWord c = true

/-- A name stands in braces in a text, the opening brace behind so many characters. -/
def OccursAt (chars : List Char) (place : Nat) (name : List Char) : Prop :=
  IsName name ∧ ∃ before after,
    before.length = place ∧ chars = before ++ '\x7b' :: (name ++ '\x7d' :: after)

/-- A list of names with their places that has every occurrence once, from left to right, and
nothing else. -/
structure ListsOccurrences (chars : List Char) (listed : List (Nat × List Char)) : Prop where
  mem_iff : ∀ place name, (place, name) ∈ listed ↔ OccursAt chars place name
  ordered : listed.Pairwise fun former latter => former.1 < latter.1

/-- What a search finds that takes the leftmost placeholder and starts over behind it, until none is
left. -/
inductive Search : List Char → List (List Char) → Prop
  | exhausted {chars : List Char} (nothing : ∀ place name, ¬ OccursAt chars place name) :
    Search chars []
  | found {before name after : List Char} {names : List (List Char)} (isName : IsName name)
    (leftmost : ∀ place other,
      OccursAt (before ++ '\x7b' :: (name ++ '\x7d' :: after)) place other → before.length ≤ place)
    (others : Search after names) :
    Search (before ++ '\x7b' :: (name ++ '\x7d' :: after)) (name :: names)

/-- The placeholder that begins with the first character of a text, if there is one. -/
def first? : List Char → Option (List Char)
  | [] => none
  | c :: rest => if c = '\x7b' then nameAfterBrace? rest else none

/-- The occurrences in a text with their places, from left to right. -/
def listing : List Char → List (Nat × List Char)
  | [] => []
  | c :: rest =>
    ((first? (c :: rest)).toList.map fun name => (0, name)) ++
      (listing rest).map fun occurrence => (occurrence.1 + 1, occurrence.2)

variable {chars rest name : List Char} {c : Char} {place : Nat}

section OccursAt

/-- A brace is completed by a name and a closing brace, and by nothing else. -/
theorem nameAfterBrace?_eq_some_iff :
    nameAfterBrace? chars = some name ↔ IsName name ∧ ∃ after, chars = name ++ '\x7d' :: after := by
  constructor
  · intro found
    unfold nameAfterBrace? at found
    split at found
    · rename_i after behind
      obtain ⟨nonempty, taken⟩ := Option.ite_none_left_eq_some.mp found
      obtain rfl := Option.some.inj taken
      refine ⟨⟨?_, fun c isThere => List.mem_takeWhile_imp isThere⟩, after, ?_⟩
      · exact fun empty => nonempty (List.isEmpty_iff.mpr empty)
      · rw [← behind, List.takeWhile_append_dropWhile]
    · contradiction
  · rintro ⟨isName, after, rfl⟩
    have closing : ¬ Text.isWord '\x7d' = true := by decide
    unfold nameAfterBrace?
    rw [List.takeWhile_append_of_pos isName.word, List.dropWhile_append_of_pos isName.word,
      List.takeWhile_cons_of_neg closing, List.dropWhile_cons_of_neg closing, List.append_nil]
    exact if_neg fun empty => isName.nonempty (List.isEmpty_iff.mp empty)

/-- The placeholder that begins with the first character occurs there. -/
theorem first?_eq_some_iff : first? chars = some name ↔ OccursAt chars 0 name := by
  constructor
  · intro found
    cases chars with
    | nil => contradiction
    | cons c rest =>
      rw [first?] at found
      split at found
      · rename_i opening
        obtain ⟨isName, after, rfl⟩ := nameAfterBrace?_eq_some_iff.mp found
        exact ⟨isName, [], after, rfl, by rw [opening, List.nil_append]⟩
      · contradiction
  · rintro ⟨isName, before, after, isPlace, rfl⟩
    obtain rfl := List.length_eq_zero_iff.mp isPlace
    exact nameAfterBrace?_eq_some_iff.mpr ⟨isName, after, rfl⟩

theorem not_occursAt_nil : ¬ OccursAt [] place name := by
  rintro ⟨-, before, after, -, split⟩
  simp at split

/-- What occurs later than at the first character occurs in the rest of the text. -/
theorem occursAt_cons_succ_iff :
    OccursAt (c :: rest) (place + 1) name ↔ OccursAt rest place name := by
  constructor
  · rintro ⟨isName, before, after, isPlace, split⟩
    cases before with
    | nil => contradiction
    | cons first before =>
      exact ⟨isName, before, after, Nat.succ.inj isPlace, (List.cons.inj split).2⟩
  · rintro ⟨isName, before, after, rfl, rfl⟩
    exact ⟨isName, c :: before, after, rfl, rfl⟩

end OccursAt

section Listing

/-- The placeholders of a text are the one that begins with its first character and those of the
rest. -/
theorem ofChars_cons (c : Char) (rest : List Char) :
    ofChars (c :: rest) = (first? (c :: rest)).toList ++ ofChars rest := by
  rw [ofChars, first?]
  split <;> rfl

/-- Without their places, the occurrences are the placeholders of the text. -/
theorem map_snd_listing (chars : List Char) : (listing chars).map Prod.snd = ofChars chars := by
  induction chars with
  | nil => rfl
  | cons c rest inductionHypothesis =>
    rw [listing, ofChars_cons, List.map_append, List.map_map, List.map_map, ← inductionHypothesis]
    exact congrArg (· ++ _) (List.map_id _)

/-- The listing has a name with a place exactly if the name occurs there. -/
theorem mem_listing : (place, name) ∈ listing chars ↔ OccursAt chars place name := by
  induction chars generalizing place with
  | nil => simp [listing, not_occursAt_nil]
  | cons c rest inductionHypothesis =>
    rw [listing, List.mem_append]
    cases place with
    | zero => simp [← first?_eq_some_iff]
    | succ place => simp [occursAt_cons_succ_iff, ← inductionHypothesis]

/-- The places of the listing increase. -/
theorem pairwise_listing (chars : List Char) :
    (listing chars).Pairwise fun former latter => former.1 < latter.1 := by
  induction chars with
  | nil => exact .nil
  | cons c rest inductionHypothesis =>
    rw [listing, List.pairwise_append]
    refine ⟨?_, ?_, ?_⟩
    · cases first? (c :: rest) with
      | none => exact .nil
      | some name => exact List.pairwise_singleton _ _
    · rw [List.pairwise_map]
      exact inductionHypothesis.imp Nat.succ_lt_succ
    · intro former isFormer latter isLatter
      obtain ⟨name, -, rfl⟩ := List.mem_map.mp isFormer
      obtain ⟨occurrence, -, rfl⟩ := List.mem_map.mp isLatter
      exact Nat.succ_pos _

/-- What the listing begins with is the leftmost occurrence. -/
theorem leftmost_of_listing_eq_cons {others : List (Nat × List Char)}
    (listed : listing chars = (place, name) :: others) :
    OccursAt chars place name ∧ ∀ later other, OccursAt chars later other → place ≤ later := by
  have ordered := pairwise_listing chars
  rw [listed] at ordered
  constructor
  · rw [← mem_listing, listed]
    exact List.mem_cons_self
  · intro later other occurs
    rw [← mem_listing, listed] at occurs
    rcases List.mem_cons.mp occurs with same | isOther
    · exact (Prod.mk.inj same).1.ge
    · exact Nat.le_of_lt (List.rel_of_pairwise_cons ordered isOther)

/-- A text whose listing is empty has no occurrence. -/
theorem listing_eq_nil_iff : listing chars = [] ↔ ∀ place name, ¬ OccursAt chars place name := by
  simp only [List.eq_nil_iff_forall_not_mem, Prod.forall, mem_listing]

/-- The listing has every occurrence once, from left to right. -/
theorem listsOccurrences_listing (chars : List Char) : ListsOccurrences chars (listing chars) where
  mem_iff _ _ := mem_listing
  ordered := pairwise_listing chars

end Listing

section Search

/-- Characters in front of every occurrence hold no placeholder. -/
theorem ofChars_append_of_leftmost {before : List Char}
    (leftmost : ∀ place name, OccursAt (before ++ rest) place name → before.length ≤ place) :
    ofChars (before ++ rest) = ofChars rest := by
  induction before with
  | nil => rfl
  | cons c before inductionHypothesis =>
    have notFirst : first? (c :: (before ++ rest)) = none := by
      rw [Option.eq_none_iff_forall_ne_some]
      intro name found
      exact absurd (leftmost 0 name (first?_eq_some_iff.mp found)) (by simp)
    have later : ∀ place name, OccursAt (before ++ rest) place name → before.length ≤ place :=
      fun place name occurs =>
        Nat.le_of_succ_le_succ (leftmost (place + 1) name (occursAt_cons_succ_iff.mpr occurs))
    rw [List.cons_append, ofChars_cons, notFirst, inductionHypothesis later]
    rfl

/-- No placeholder begins where there is no opening brace. -/
theorem ofChars_append_of_no_brace {run : List Char} (noBrace : ∀ c ∈ run, c ≠ '\x7b')
    (rest : List Char) : ofChars (run ++ rest) = ofChars rest := by
  induction run with
  | nil => rfl
  | cons c run inductionHypothesis =>
    rw [List.cons_append, ofChars, if_neg (noBrace c List.mem_cons_self)]
    exact inductionHypothesis fun c later => noBrace c (List.mem_cons_of_mem _ later)

/-- Behind a placeholder the scan may start over: neither the name nor the closing brace begins
another one. -/
theorem ofChars_braced (isName : IsName name) (after : List Char) :
    ofChars ('\x7b' :: (name ++ '\x7d' :: after)) = name :: ofChars after := by
  have noBrace : ∀ c ∈ name ++ ['\x7d'], c ≠ '\x7b' := by
    rintro c isThere rfl
    rcases List.mem_append.mp isThere with inName | isLast
    · exact absurd (isName.word _ inName) (by decide)
    · exact absurd (List.mem_singleton.mp isLast) (by decide)
  have found : first? ('\x7b' :: (name ++ '\x7d' :: after)) = some name :=
    first?_eq_some_iff.mpr ⟨isName, [], after, rfl, rfl⟩
  rw [ofChars_cons, found, List.append_cons, ofChars_append_of_no_brace noBrace]
  rfl

/-- A search finds the placeholders of the text. -/
theorem ofChars_eq_of_search {names : List (List Char)} (search : Search chars names) :
    ofChars chars = names := by
  induction search with
  | exhausted nothing =>
    rw [← map_snd_listing, listing_eq_nil_iff.mpr nothing, List.map_nil]
  | found isName leftmost _ inductionHypothesis =>
    rw [ofChars_append_of_leftmost leftmost, ofChars_braced isName, inductionHypothesis]

/-- A search comes to an end, for each placeholder shortens the text. -/
theorem exists_search (chars : List Char) : ∃ names, Search chars names := by
  induction length : chars.length using Nat.strongRecOn generalizing chars with
  | ind _ inductionHypothesis =>
    cases listed : listing chars with
    | nil => exact ⟨[], .exhausted (listing_eq_nil_iff.mp listed)⟩
    | cons occurrence others =>
      obtain ⟨place, name⟩ := occurrence
      obtain ⟨occurs, leftmost⟩ := leftmost_of_listing_eq_cons listed
      obtain ⟨isName, before, after, rfl, rfl⟩ := occurs
      have shorter : after.length < (before ++ '\x7b' :: (name ++ '\x7d' :: after)).length := by
        simp only [List.length_append, List.length_cons]
        omega
      obtain ⟨names, search⟩ := inductionHypothesis _ (length ▸ shorter) after rfl
      exact ⟨name :: names, .found isName leftmost search⟩

/-- A search finds the placeholders of the text and nothing else. -/
theorem search_iff {names : List (List Char)} : Search chars names ↔ ofChars chars = names := by
  constructor
  · exact ofChars_eq_of_search
  · rintro rfl
    obtain ⟨names, search⟩ := exists_search chars
    rwa [ofChars_eq_of_search search]

end Search

/-- The placeholders of a path are the names that occur in it in braces: every occurrence is listed
once, from left to right, and nothing else is. A search that starts over behind each placeholder
finds exactly these. A character that is neither a brace nor part of a word parts a text into two
whose placeholders follow each other. -/
theorem names_at_occurrences (path : String) :
    (∃ listed, ListsOccurrences path.toList listed ∧
      names path = listed.map fun occurrence => String.ofList occurrence.2) ∧
    (∀ found, Search path.toList found ↔ names path = found.map String.ofList) ∧
    ∀ (others : String) (c : Char), c ≠ '\x7b' → c ≠ '\x7d' → Text.isWord c = false →
      names (path ++ String.singleton c ++ others) = names path ++ names others := by
  refine ⟨⟨listing path.toList, listsOccurrences_listing _, ?_⟩, ?_, ?_⟩
  · rw [names, ← map_snd_listing, List.map_map]
    rfl
  · intro found
    rw [search_iff, names, List.map_inj_right fun _ _ same => String.ofList_inj.mp same]
  · intro others c notOpening notClosing notWord
    have apart : separates c = true := by simp [separates, notOpening, notClosing, notWord]
    have chars : (path ++ String.singleton c ++ others).toList =
        path.toList ++ c :: others.toList := by
      simp
    rw [names, chars, ofChars_append_cons apart, List.map_append]
    rfl

/-- Adjacent, nested, unmatched and empty braces, a name that is none, and a placeholder that comes
twice: the search finds the three placeholders of the path, and a fourth one behind a slash. -/
theorem names_at_occurrences_nested :
    let path := "\x7b\x7d\x7bx\x7d\x7b\x7ba\x7d\x7d\x7buser-id\x7d\x7bx\x7d"
    let others := "\x7ba\x7bb\x7d"
    (∃ listed, ListsOccurrences path.toList listed ∧
      listed.map (fun occurrence => String.ofList occurrence.2) = ["x", "a", "x"]) ∧
    Search path.toList [['x'], ['a'], ['x']] ∧
    '/' ≠ '\x7b' ∧ '/' ≠ '\x7d' ∧ Text.isWord '/' = false ∧
    names (path ++ String.singleton '/' ++ others) = ["x", "a", "x", "b"] := by
  intro path others
  obtain ⟨⟨listed, lists, listedNames⟩, search, parted⟩ := names_at_occurrences path
  have pathNames : names path = ["x", "a", "x"] := by decide +kernel
  have otherNames : names others = ["b"] := by decide +kernel
  refine ⟨⟨listed, lists, listedNames.symm.trans pathNames⟩, (search _).mpr pathNames, by decide,
    by decide, by decide, ?_⟩
  rw [parted others '/' (by decide) (by decide) (by decide), pathNames, otherNames]
  rfl

end OpenApiTools.Placeholder
