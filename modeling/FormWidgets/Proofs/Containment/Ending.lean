import FormWidgets.Proofs.Containment.UpwardWalk
import Mathlib

/-!
# Where upward walks end

An element lies in a view, in one other element or nowhere, so one chain of links
goes up from it.  The chain leads to a view, dangles or runs into a circle: a view
at its end is what the walk finds, and the other two are the ways to find none.

The walk is also followed one look-up at a time, as it asks a host that keeps the
whole map and drops nothing.  What it remembers there are the elements that it
looked up, and it stops at the first one that it meets again.
-/

namespace FormWidgets

namespace ContainmentLinks

variable {links : ContainmentLinks} {id parent upper : String} {root : ViewRoot} {steps : Nat}

/-- An element lies directly in another one. -/
def LiesIn (links : ContainmentLinks) (lower upper : String) : Prop :=
  links.find? lower = some (.element upper)

/-- An element is another one or lies in it, through any number of links. -/
def IsWithin (links : ContainmentLinks) (lower upper : String) : Prop :=
  Relation.ReflTransGen links.LiesIn lower upper

/-- The chain of links ends at an element that has no container. -/
def Dangles (links : ContainmentLinks) (id : String) : Prop :=
  ∃ last, links.IsWithin id last ∧ links.find? last = none

/-- The chain of links comes to an element that lies in itself. -/
def Circles (links : ContainmentLinks) (id : String) : Prop :=
  ∃ again, links.IsWithin id again ∧ Relation.TransGen links.LiesIn again again

/-! ## Chains that lead to a view -/

/-- What an element lies in is on the same way to the view. -/
theorem LeadsTo.exists_of_isWithin (leads : links.LeadsTo steps id root)
    (within : links.IsWithin id upper) : ∃ left, links.LeadsTo left upper root := by
  induction within with
  | refl => exact ⟨steps, leads⟩
  | tail _ linked higher =>
      obtain ⟨left, leads⟩ := higher
      cases leads with
      | view found => cases found.symm.trans linked
      | element found above =>
          cases found.symm.trans linked
          exact ⟨_, above⟩

theorem LeadsTo.exists_longer_of_transGen (leads : links.LeadsTo steps upper root)
    (within : Relation.TransGen links.LiesIn id upper) :
    ∃ longer > steps, links.LeadsTo longer id root := by
  induction within using Relation.TransGen.head_induction_on with
  | single linked => exact ⟨steps + 1, Nat.lt_succ_self _, .element linked leads⟩
  | head linked _ above =>
      obtain ⟨longer, more, leads⟩ := above
      exact ⟨longer + 1, Nat.lt_succ_of_lt more, .element linked leads⟩

theorem exists_leadsTo_iff :
    (∃ steps, links.LeadsTo steps id root) ↔
      ∃ top, links.IsWithin id top ∧ links.find? top = some (.view root) := by
  constructor
  · rintro ⟨steps, leads⟩
    induction leads with
    | view found => exact ⟨_, .refl, found⟩
    | element linked _ above =>
        obtain ⟨top, within, found⟩ := above
        exact ⟨top, within.head linked, found⟩
  · rintro ⟨top, within, found⟩
    induction within using Relation.ReflTransGen.head_induction_on with
    | refl => exact ⟨0, .view found⟩
    | head linked _ above =>
        obtain ⟨steps, leads⟩ := above
        exact ⟨steps + 1, .element linked leads⟩

theorem LeadsTo.not_dangles (leads : links.LeadsTo steps id root) : ¬ links.Dangles id := by
  rintro ⟨last, within, unlinked⟩
  obtain ⟨left, leads⟩ := leads.exists_of_isWithin within
  cases leads with
  | view found => cases unlinked.symm.trans found
  | element found _ => cases unlinked.symm.trans found

/-- Once around the circle the way to the view would be longer than it is. -/
theorem LeadsTo.not_circles (leads : links.LeadsTo steps id root) : ¬ links.Circles id := by
  rintro ⟨again, within, around⟩
  obtain ⟨left, leads⟩ := leads.exists_of_isWithin within
  obtain ⟨longer, more, leadsAgain⟩ := leads.exists_longer_of_transGen around
  exact absurd (leads.unique leadsAgain).1 (Nat.ne_of_lt more)

/-! ## Chains that lead to none -/

theorem LiesIn.of_erase {dropped : String} (linked : LiesIn (links.erase dropped) id upper) :
    links.LiesIn id upper := by
  rw [LiesIn, NameMap.find?_erase] at linked
  split at linked
  · cases linked
  · exact linked

theorem IsWithin.of_erase {dropped : String}
    (within : IsWithin (links.erase dropped) id upper) : links.IsWithin id upper :=
  Relation.ReflTransGen.mono (fun _ _ => LiesIn.of_erase) _ _ within

theorem Circles.of_liesIn (linked : links.LiesIn id parent) (above : links.Circles parent) :
    links.Circles id := by
  obtain ⟨again, within, around⟩ := above
  exact ⟨again, within.head linked, around⟩

theorem Circles.of_erase {dropped : String} (circles : Circles (links.erase dropped) id) :
    links.Circles id := by
  obtain ⟨again, within, around⟩ := circles
  exact ⟨again, within.of_erase, Relation.TransGen.mono (fun _ _ => LiesIn.of_erase) _ _ around⟩

/-- What dangles without an element dangles anyway, or it comes to that element. -/
theorem Dangles.of_erase {dropped : String} (dangles : Dangles (links.erase dropped) id) :
    links.Dangles id ∨ links.IsWithin id dropped := by
  obtain ⟨last, within, unlinked⟩ := dangles
  rw [NameMap.find?_erase] at unlinked
  split at unlinked
  · rename_i same
    exact .inr (same ▸ within.of_erase)
  · exact .inl ⟨last, within.of_erase, unlinked⟩

theorem dangles_or_circles_of_owningView?_eq_none (walked : links.owningView? id = none) :
    links.Dangles id ∨ links.Circles id := by
  induction links, id using owningView?.induct with
  | case1 links id unlinked => exact .inl ⟨id, .refl, unlinked⟩
  | case2 links id view linked =>
      rw [owningView?_of_view linked] at walked
      cases walked
  | case3 links id parent linked higher =>
      rw [owningView?_of_element linked] at walked
      rcases higher walked with dangles | circles
      -- Where the chain comes back to the dropped element it only seems to dangle.
      · rcases dangles.of_erase with ⟨last, within, unlinked⟩ | back
        · exact .inl ⟨last, within.head linked, unlinked⟩
        · exact .inr ⟨id, .refl, .head' linked back⟩
      · exact .inr (circles.of_erase.of_liesIn linked)

theorem owningView?_eq_none_iff :
    links.owningView? id = none ↔ links.Dangles id ∨ links.Circles id := by
  constructor
  · exact dangles_or_circles_of_owningView?_eq_none
  · intro ends
    by_contra found
    obtain ⟨root, found⟩ := Option.ne_none_iff_exists'.mp found
    obtain ⟨steps, leads⟩ := owningView?_eq_some_iff.mp found
    exact ends.elim leads.not_dangles leads.not_circles

/-! ## What is left of the links -/

/-- The links that are left when those of some elements are dropped. -/
def without (links : ContainmentLinks) (dropped : List String) : ContainmentLinks :=
  dropped.foldl NameMap.erase links

theorem without_append_singleton (dropped : List String) :
    links.without (dropped ++ [id]) = (links.without dropped).erase id :=
  List.foldl_concat _ _ _ _

theorem find?_without (dropped : List String) :
    (links.without dropped).find? id = if id ∈ dropped then none else links.find? id := by
  induction dropped using List.reverseRecOn with
  | nil => rfl
  | append_singleton dropped last before =>
      rw [without_append_singleton, NameMap.find?_erase, before]
      grind

theorem find?_eq_some_of_without {dropped : List String} {container : Container}
    (linked : (links.without dropped).find? id = some container) :
    id ∉ dropped ∧ links.find? id = some container := by
  rw [find?_without] at linked
  split at linked
  · cases linked
  · rename_i kept
    exact ⟨kept, linked⟩

end ContainmentLinks

/-! ## Look-ups -/

/-- A walk has come to an element, or it has ended with a view or with none. -/
inductive UpwardWalk.Stage where
  | reached (id : String)
  | ended (view : Option ViewRoot)
deriving DecidableEq

/-- How far a walk has come: the elements that it looked up, in order, and where it is now. -/
structure UpwardWalk where
  lookedUp : List String
  stage : UpwardWalk.Stage
deriving DecidableEq

namespace UpwardWalk

open ContainmentLinks

variable (links : ContainmentLinks)

/-- The walk that has come to its first element. -/
def start (id : String) : UpwardWalk :=
  ⟨[], .reached id⟩

/-- Where a walk goes from an element with a given container. -/
def Stage.above : Option Container → Stage
  | none => .ended none
  | some (.view root) => .ended (some root)
  | some (.element parent) => .reached parent

/-- Look up the container of the reached element and go there; an element that was looked up ends the walk. -/
def step (walk : UpwardWalk) : UpwardWalk :=
  match walk.stage with
  | .ended _ => walk
  | .reached id =>
      if id ∈ walk.lookedUp then ⟨walk.lookedUp, .ended none⟩
      else ⟨walk.lookedUp ++ [id], .above (links.find? id)⟩

variable {links} {lookedUp : List String} {id : String}

theorem step_of_mem (met : id ∈ lookedUp) :
    step links ⟨lookedUp, .reached id⟩ = ⟨lookedUp, .ended none⟩ :=
  if_pos met

theorem step_of_notMem (fresh : id ∉ lookedUp) :
    step links ⟨lookedUp, .reached id⟩ = ⟨lookedUp ++ [id], .above (links.find? id)⟩ :=
  if_neg fresh

/-- No element is looked up twice. -/
theorem nodup_step {walk : UpwardWalk} (distinct : walk.lookedUp.Nodup) :
    (walk.step links).lookedUp.Nodup := by
  obtain ⟨lookedUp, id | view⟩ := walk
  · by_cases met : id ∈ lookedUp
    · rw [step_of_mem met]
      exact distinct
    · rw [step_of_notMem met]
      exact List.nodup_append.mpr ⟨distinct, List.nodup_singleton id, by grind⟩
  · exact distinct

theorem nodup_iterate_step {walk : UpwardWalk} (distinct : walk.lookedUp.Nodup) (steps : Nat) :
    ((step links)^[steps] walk).lookedUp.Nodup := by
  induction steps generalizing walk with
  | zero => exact distinct
  | succ steps later => exact later (nodup_step distinct)

/-- The walk ends as the one does that drops the elements that were looked up. -/
theorem exists_iterate_step_eq (links : ContainmentLinks) (lookedUp : List String) (id : String) :
    ∃ steps ≤ (links.without lookedUp).size + 1, ∃ all,
      (step links)^[steps] ⟨lookedUp, .reached id⟩ =
        ⟨all, .ended ((links.without lookedUp).owningView? id)⟩ := by
  -- The induction follows the walk that drops links: what it has dropped is what was looked up.
  generalize remaining : links.without lookedUp = left
  induction left, id using owningView?.induct generalizing lookedUp with
  | case1 left id unlinked =>
      subst remaining
      rw [owningView?_eq_none unlinked]
      by_cases met : id ∈ lookedUp
      · exact ⟨1, Nat.le_add_left _ _, lookedUp, step_of_mem met⟩
      · refine ⟨1, Nat.le_add_left _ _, lookedUp ++ [id], ?_⟩
        rw [find?_without, if_neg met] at unlinked
        rw [Function.iterate_one, step_of_notMem met, unlinked]
        rfl
  | case2 left id view linked =>
      subst remaining
      rw [owningView?_of_view linked]
      obtain ⟨fresh, found⟩ := find?_eq_some_of_without linked
      refine ⟨1, Nat.le_add_left _ _, lookedUp ++ [id], ?_⟩
      rw [Function.iterate_one, step_of_notMem fresh, found]
      rfl
  | case3 left id parent linked higher =>
      subst remaining
      have smaller := NameMap.size_erase_lt linked
      obtain ⟨fresh, found⟩ := find?_eq_some_of_without linked
      obtain ⟨steps, few, all, ends⟩ :=
        higher (lookedUp ++ [id]) (without_append_singleton lookedUp)
      refine ⟨steps + 1, by omega, all, ?_⟩
      rw [Function.iterate_succ_apply, step_of_notMem fresh, found,
        owningView?_of_element linked, ← ends]
      rfl

end UpwardWalk

/--
The walk up from an element ends within one look-up for each link of the map and one
more, and looks no element up twice.  It finds a view exactly when the chain of links
leads to one, and none exactly when the chain dangles or runs into a circle.
-/
theorem ContainmentLinks.owningView?_ends_exactly (links : ContainmentLinks) (id : String) :
    (∃ steps ≤ links.size + 1, ∃ lookedUp,
      (UpwardWalk.step links)^[steps] (UpwardWalk.start id) =
          ⟨lookedUp, .ended (links.owningView? id)⟩ ∧
        lookedUp.Nodup) ∧
      (∀ root, links.owningView? id = some root ↔
        ∃ top, links.IsWithin id top ∧ links.find? top = some (.view root)) ∧
      (links.owningView? id = none ↔ links.Dangles id ∨ links.Circles id) := by
  refine ⟨?_, ?_, owningView?_eq_none_iff⟩
  · obtain ⟨steps, few, lookedUp, ends⟩ := UpwardWalk.exists_iterate_step_eq links [] id
    refine ⟨steps, few, lookedUp, ends, ?_⟩
    have distinct : ((UpwardWalk.step links)^[steps] (.start id)).lookedUp.Nodup :=
      UpwardWalk.nodup_iterate_step List.nodup_nil steps
    rwa [UpwardWalk.start, ends] at distinct
  · intro root
    exact owningView?_eq_some_iff.trans exists_leadsTo_iff

/-- A walk that runs into a circle looks up all that is on it and stops where it comes back. -/
example :
    let links : ContainmentLinks := NameMap.ofList
      [("title", .element "head"), ("head", .element "page"), ("page", .element "head")]
    (UpwardWalk.step links)^[4] (.start "title") = ⟨["title", "head", "page"], .ended none⟩ := by
  decide

end FormWidgets
