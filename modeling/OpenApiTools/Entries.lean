/-!
# Entries

Values under keys, in the order in which the keys first came. Setting a key again replaces its value
in place, so that a repeated key keeps its first position and takes its last value. A list of
entries may hold a key twice; one that has been built by `insert` alone does not, and of another
only the first entry of a key is found.
-/

namespace OpenApiTools

/-- Values under keys, in order. -/
abbrev Entries (α : Type) := List (String × α)

namespace Entries

variable {α β : Type}

/-- The value of the first entry with this key. -/
def get? (key : String) : Entries α → Option α
  | [] => none
  | (name, value) :: rest => if name = key then some value else get? key rest

/-- Whether some entry has this key. -/
def has (key : String) (entries : Entries α) : Bool :=
  (get? key entries).isSome

/-- The keys in order. -/
def keys (entries : Entries α) : List String :=
  entries.map Prod.fst

/-- The entries with other values under the same keys. -/
def mapValues (f : α → β) (entries : Entries α) : Entries β :=
  entries.map fun (key, value) => (key, f value)

/-- Sets the value of a key, in place if the key is there already and at the end otherwise. -/
def insert (key : String) (value : α) : Entries α → Entries α
  | [] => [(key, value)]
  | (name, old) :: rest =>
    if name = key then (name, value) :: rest else (name, old) :: insert key value rest

/-- Enters pairs one after the other, so that a repeated key keeps its first position and its last
value. -/
def ofList (pairs : List (String × α)) : Entries α :=
  pairs.foldl (fun entries (key, value) => insert key value entries) []

/-- Whether there is an entry can be read off the keys. -/
theorem has_iff_mem_keys {key : String} {entries : Entries α} :
    has key entries = true ↔ key ∈ keys entries := by
  induction entries with
  | nil => simp [has, get?, keys]
  | cons entry rest inductionHypothesis =>
    by_cases same : entry.1 = key
    · simp [has, get?, keys, same]
    · simpa [has, get?, keys, same, Ne.symm same] using inductionHypothesis

/-- What an insertion leaves to be found: the new value under its key, and all else as before. -/
theorem get?_insert (key other : String) (value : α) (entries : Entries α) :
    get? other (insert key value entries) =
      if key = other then some value else get? other entries := by
  induction entries with
  | nil => simp [insert, get?]
  | cons entry rest inductionHypothesis =>
    obtain ⟨name, old⟩ := entry
    by_cases same : name = key
    · subst same
      by_cases found : name = other <;> simp [insert, get?, found]
    · by_cases found : name = other
      · subst found
        simp [insert, get?, same, Ne.symm same]
      · simp [insert, get?, same, found, inductionHypothesis]

/-- An insertion leaves the keys alone or adds its own at the end. -/
theorem keys_insert (key : String) (value : α) (entries : Entries α) :
    keys (insert key value entries) =
      if key ∈ keys entries then keys entries else keys entries ++ [key] := by
  induction entries with
  | nil => simp [insert, keys]
  | cons entry rest inductionHypothesis =>
    obtain ⟨name, old⟩ := entry
    by_cases same : name = key
    · simp [insert, keys, same]
    · by_cases there : key ∈ keys rest <;> simp_all [insert, keys, Ne.symm same]

/-- No key is added to the keys twice. -/
theorem nodup_keys_insert {entries : Entries α} (distinct : (keys entries).Nodup) (key : String)
    (value : α) : (keys (insert key value entries)).Nodup := by
  rw [keys_insert]
  split
  · exact distinct
  · rename_i absent
    rw [List.nodup_append]
    refine ⟨distinct, by simp, ?_⟩
    intro name isThere other isKey equal
    exact absent (by simp_all)

/-- Pairs that are entered one after the other have distinct keys in the end. -/
theorem nodup_keys_ofList (pairs : List (String × α)) : (keys (ofList pairs)).Nodup := by
  have invariant : ∀ (pairs : List (String × α)) (entries : Entries α), (keys entries).Nodup →
      (keys (pairs.foldl (fun entries (key, value) => insert key value entries)
        entries)).Nodup := by
    intro pairs
    induction pairs with
    | nil => exact fun _ distinct => distinct
    | cons pair rest inductionHypothesis =>
      exact fun entries distinct => inductionHypothesis _ (nodup_keys_insert distinct _ _)
  exact invariant pairs [] (by simp [keys])

/-- Other values leave the keys alone. -/
@[simp] theorem keys_mapValues (f : α → β) (entries : Entries α) :
    keys (mapValues f entries) = keys entries := by
  simp [keys, mapValues]

/-- A value under a key is found as the image of the one before. -/
theorem get?_mapValues (f : α → β) (key : String) (entries : Entries α) :
    get? key (mapValues f entries) = (get? key entries).map f := by
  induction entries with
  | nil => rfl
  | cons entry rest inductionHypothesis =>
    by_cases same : entry.1 = key
    · simp [mapValues, get?, same]
    · simpa [mapValues, get?, same] using inductionHypothesis

end Entries

end OpenApiTools
