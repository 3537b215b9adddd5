import AudioLibrary.Query.Compile

/-!
# The predicates of a filter

A filter has at most one predicate of each kind.  `predicates_eq` lists the parts in their order,
and a statement about all predicates of a filter is one about each part that is there.
-/

namespace AudioLibrary

/-- The predicate for keys of voice actors, if there are any. -/
def actorPredicates : List String → List Predicate
  | [] => []
  | key :: others => [.anyActor key others]

theorem predicates_eq (spec : FilterSpec) (shape : Shape) :
    spec.predicates shape =
      (shape.album?.map .ofAlbum).toList ++
        (spec.searchText.map fun text =>
          .textMatch text shape.textColumns shape.tagScope).toList ++
        unlessEmpty (.allTags shape.tagScope) spec.includeTags.toList ++
        unlessEmpty (.noTag shape.tagScope) spec.excludeTags.toList ++
        actorPredicates spec.actorKeys.toList ++
        unlessEmpty .anyCircle spec.circles.toList ++
        (spec.effectiveSource.map .fromSource).toList := rfl

section

variable {α : Type} {predicate : List α → Predicate} {items : List α} {P : Predicate → Prop}

theorem forall_unlessEmpty_iff :
    (∀ p ∈ unlessEmpty predicate items, P p) ↔ (items ≠ [] → P (predicate items)) := by
  cases items with
  | nil =>
      have hnone : unlessEmpty predicate [] = [] := rfl
      simp [hnone]
  | cons item items =>
      have hone : unlessEmpty predicate (item :: items) = [predicate (item :: items)] := rfl
      simp [hone]

theorem flatMap_unlessEmpty {β : Type} (g : Predicate → List β) :
    (unlessEmpty predicate items).flatMap g = if items = [] then [] else g (predicate items) := by
  cases items with
  | nil => rfl
  | cons item items => exact List.append_nil _

theorem forall_actorPredicates {keys : List String}
    (h : ∀ key others, keys = key :: others → P (.anyActor key others)) :
    ∀ p ∈ actorPredicates keys, P p := by
  cases keys with
  | nil => exact fun p hp => absurd hp List.not_mem_nil
  | cons key others => exact List.forall_mem_singleton.mpr (h key others rfl)

theorem forall_toList_map {f : α → Predicate} {o : Option α} (h : ∀ a ∈ o, P (f a)) :
    ∀ p ∈ (o.map f).toList, P p := by
  cases o with
  | none => exact fun p hp => absurd hp List.not_mem_nil
  | some a => exact List.forall_mem_singleton.mpr (h a rfl)

end

end AudioLibrary
