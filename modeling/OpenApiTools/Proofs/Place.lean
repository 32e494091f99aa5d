import Mathlib.Data.List.Forall2
import Mathlib.Data.Set.Card
import OpenApiTools.Proofs.Operation
import OpenApiTools.Proofs.Slash

/-!
# Places of operations

A place is the position of a path in a document and a method. Places are ordered by the path first
and by the method then, so that the order of the keys of a path item plays no part. The tools of a
document stand in the order of the places that hold an operation, one tool to a place.
-/

namespace OpenApiTools

/-- Where a document may declare an operation: the position of the path, and the method. -/
structure Place where
  entry : Nat
  method : Method
  deriving DecidableEq

namespace Place

/-- The order of places: by path, and by method under one path. -/
def Precedes (left right : Place) : Prop :=
  left.entry < right.entry ∨
    left.entry = right.entry ∧ left.method.index < right.method.index

/-- The operation that paths declare at a place: the path item there is an object that has the key
of the method, whatever its value. -/
def Holds (paths : Fields) (place : Place) (operation : Operation) : Prop :=
  operation.method = place.method ∧
    ∃ fields, paths[place.entry]? = some (operation.path, .object fields) ∧
      Entries.get? place.method.key fields = some operation.declaration

/-- The same method one path later. -/
def later (place : Place) : Place :=
  { place with entry := place.entry + 1 }

/-- The operations that paths declare, each with its place. -/
def listing : Fields → List (Place × Operation)
  | [] => []
  | (path, item) :: rest =>
    ((Operation.ofPathItem path item).map fun operation => (⟨0, operation.method⟩, operation)) ++
      (listing rest).map fun (place, operation) => (place.later, operation)

theorem later_injective : Function.Injective later := by
  rintro ⟨entry, method⟩ ⟨other, sameMethod⟩ equal
  simpa [later] using equal

/-- A later place of paths is a place of the paths after the first. -/
theorem holds_later {entry : String × Json} {rest : Fields} {place : Place}
    {operation : Operation} :
    place.later.Holds (entry :: rest) operation ↔ place.Holds rest operation := by
  rw [Holds, Holds, later, List.getElem?_cons_succ]

/-- What the first path holds is what its path item declares. -/
theorem holds_first {path : String} {item : Json} {rest : Fields} {method : Method}
    {operation : Operation} :
    Holds ((path, item) :: rest) ⟨0, method⟩ operation ↔
      operation.method = method ∧ operation ∈ Operation.ofPathItem path item := by
  rw [Holds, Operation.mem_ofPathItem, Json.get?_eq_some_iff, List.getElem?_cons_zero]
  constructor
  · rintro ⟨rfl, fields, isItem, found⟩
    obtain ⟨rfl, rfl⟩ := Prod.mk.inj (Option.some.inj isItem)
    exact ⟨rfl, rfl, fields, rfl, found⟩
  · rintro ⟨rfl, rfl, fields, rfl, found⟩
    exact ⟨rfl, fields, rfl, found⟩

/-- The listing has every operation at the place that holds it, and nothing else. -/
theorem mem_listing {paths : Fields} {place : Place} {operation : Operation} :
    (place, operation) ∈ listing paths ↔ place.Holds paths operation := by
  induction paths generalizing place with
  | nil => simp [listing, Holds]
  | cons first rest inductionHypothesis =>
    obtain ⟨path, item⟩ := first
    obtain ⟨entry, method⟩ := place
    rw [listing, List.mem_append, List.mem_map, List.mem_map]
    cases entry with
    | zero =>
      rw [holds_first]
      constructor
      · rintro (⟨other, declared, equal⟩ | ⟨other, -, equal⟩)
        · obtain ⟨same, rfl⟩ := Prod.mk.inj equal
          exact ⟨congrArg Place.method same, declared⟩
        · simp [later] at equal
      · rintro ⟨rfl, declared⟩
        exact .inl ⟨operation, declared, rfl⟩
    | succ entry =>
      have isLater : (⟨entry + 1, method⟩ : Place) = later ⟨entry, method⟩ := rfl
      rw [isLater, holds_later, ← inductionHypothesis]
      constructor
      · rintro (⟨other, -, equal⟩ | ⟨⟨place, other⟩, listed, equal⟩)
        · simp [later] at equal
        · obtain ⟨same, rfl⟩ := Prod.mk.inj equal
          obtain rfl := later_injective same
          exact listed
      · intro listed
        exact .inr ⟨_, listed, rfl⟩

/-- The operations of the listing are those of the path items in order. -/
theorem map_snd_listing (paths : Fields) :
    (listing paths).map Prod.snd =
      paths.flatMap fun (path, item) => Operation.ofPathItem path item := by
  induction paths with
  | nil => rfl
  | cons first rest inductionHypothesis =>
    rw [listing, List.map_append, List.map_map, List.map_map, List.flatMap_cons,
      ← inductionHypothesis]
    exact congrArg (· ++ _) (List.map_id _)

/-- The operations of one path item are in the order of the methods. -/
theorem pairwise_method_ofPathItem (path : String) (item : Json) :
    (Operation.ofPathItem path item).Pairwise fun left right =>
      left.method.index < right.method.index := by
  have methods : Method.all.Pairwise fun left right => left.index < right.index := by decide
  refine methods.filterMap _ fun left right before leftOperation isLeft rightOperation isRight => ?_
  obtain ⟨_, -, rfl⟩ := Option.map_eq_some_iff.mp isLeft
  obtain ⟨_, -, rfl⟩ := Option.map_eq_some_iff.mp isRight
  exact before

/-- The listing is in the order of the places. -/
theorem pairwise_listing (paths : Fields) :
    (listing paths).Pairwise fun left right => left.1.Precedes right.1 := by
  induction paths with
  | nil => exact .nil
  | cons first rest inductionHypothesis =>
    rw [listing, List.pairwise_append, List.pairwise_map, List.pairwise_map]
    refine ⟨?_, ?_, ?_⟩
    · exact (pairwise_method_ofPathItem _ _).imp fun before => .inr ⟨rfl, before⟩
    · refine inductionHypothesis.imp fun before => ?_
      rcases before with earlier | ⟨same, before⟩
      · exact .inl (Nat.succ_lt_succ earlier)
      · exact .inr ⟨congrArg Nat.succ same, before⟩
    · intro left inFirst right inRest
      obtain ⟨_, -, rfl⟩ := List.mem_map.mp inFirst
      obtain ⟨_, -, rfl⟩ := List.mem_map.mp inRest
      exact .inl (Nat.succ_pos _)

/-- No place precedes itself. -/
theorem not_precedes_self (place : Place) : ¬ place.Precedes place := by
  rintro (less | ⟨-, less⟩) <;> exact Nat.lt_irrefl _ less

/-- Places in order are distinct. -/
theorem nodup_of_pairwise {places : List Place} (ordered : places.Pairwise Precedes) :
    places.Nodup := by
  refine ordered.imp fun {left right} before => ?_
  rintro rfl
  exact not_precedes_self _ before

end Place

/-- A list of tools follows the places of operations: every place that holds an operation has one
tool, made from that operation alone, and the tools are in the order of the places. -/
structure Tool.Follow (paths : Fields) (context : ToolContext) (places : List Place)
    (tools : List Tool) : Prop where
  /-- The places are in order, so that none of them comes twice. -/
  ordered : places.Pairwise Place.Precedes
  /-- The places are all those that hold an operation. -/
  complete : ∀ place, place ∈ places ↔ ∃ operation, place.Holds paths operation
  /-- The tools are made from the operations at the places, each at the position of its own. -/
  matched : List.Forall₂
    (fun place tool => ∃ operation, place.Holds paths operation ∧
      tool = operation.tool context ∧ tool.method = place.method ∧
      JoinsUrl context.baseUrl operation.path tool.url) places tools
  /-- There are as many tools as places that hold an operation. -/
  counted : tools.length = Set.ncard {place : Place | ∃ operation, place.Holds paths operation}

/-- A document that declares paths has tools, and they follow the places of its operations. -/
theorem Document.tools_follow_places {document : Document} {paths : Fields}
    (declared : document.paths? = some paths) (nonempty : paths ≠ []) (context : ToolContext) :
    ∃ places tools,
      document.tools context = .ok tools ∧ Tool.Follow paths context places tools := by
  refine ⟨(Place.listing paths).map Prod.fst,
    ((Place.listing paths).map Prod.snd).map (Operation.tool context), ?_, ?_⟩
  · rw [tools_eq, operations, declared, Option.getD_some, Place.map_snd_listing]
    exact if_neg (by simpa using nonempty)
  · have ordered : ((Place.listing paths).map Prod.fst).Pairwise Place.Precedes :=
      List.pairwise_map.mpr (Place.pairwise_listing paths)
    have complete (place : Place) : place ∈ (Place.listing paths).map Prod.fst ↔
        ∃ operation, place.Holds paths operation := by
      simp only [List.mem_map, Prod.exists, exists_and_right, exists_eq_right, Place.mem_listing]
    refine ⟨ordered, complete, ?_, ?_⟩
    · rw [List.map_map, List.forall₂_map_left_iff, List.forall₂_map_right_iff, List.forall₂_same]
      rintro ⟨place, operation⟩ listed
      have holds : place.Holds paths operation := Place.mem_listing.mp listed
      exact ⟨operation, holds, rfl, holds.1, joinsUrl_joinUrl context.baseUrl operation.path⟩
    · have places : {place : Place | ∃ operation, place.Holds paths operation} =
          (((Place.listing paths).map Prod.fst).toFinset : Set Place) := by
        ext place
        rw [List.coe_toFinset, Set.mem_ofPred_eq, Set.mem_ofPred_eq, complete]
      rw [places, Set.ncard_coe_finset,
        List.toFinset_card_of_nodup (Place.nodup_of_pairwise ordered)]
      simp only [List.length_map]

/-- Path items of every kind: methods out of order, a null operation, keys that are no methods, and
an item that is no object. The two operations that read get the same name. The slashes that the base
address and the paths bring to the join become one. -/
theorem Document.tools_follow_places_mixed :
    let paths : Fields :=
      [("//a-b/", .object [("patch", .null), ("head", .object []), ("get", .object [])]),
       ("/broken", .array []),
       ("a.b", .object [("parameters", .array []), ("get", .bool true)])]
    let document : Document := ⟨[("swagger", .string "2.0"), ("paths", .object paths)]⟩
    let context : ToolContext := ⟨"https://api.example.com/", .none, none⟩
    document.paths? = some paths ∧ paths ≠ [] ∧
      ∃ places tools, document.tools context = .ok tools ∧
        Tool.Follow paths context places tools ∧
        tools.map Tool.method = [.get, .patch, .get] ∧
        tools.map Tool.url =
          ["https://api.example.com/a-b/", "https://api.example.com/a-b/",
            "https://api.example.com/a.b"] := by
  intro paths document context
  have declared : document.paths? = some paths := rfl
  have nonempty : paths ≠ [] := List.cons_ne_nil _ _
  obtain ⟨places, tools, made, follow⟩ := tools_follow_places declared nonempty context
  refine ⟨declared, nonempty, places, tools, made, follow, ?_, ?_⟩
  · rw [eq_of_tools_eq_ok made]
    rfl
  · rw [eq_of_tools_eq_ok made]
    decide +kernel

end OpenApiTools
