import FormWidgets.Containment
import FormWidgets.Proofs.NameMap.Lookup

/-!
# Walking upward

The walk from an element to its view drops each link that it follows.  Beside it
stands the chain of links itself, as it is in the whole map.  A chain has one
length, so it comes to no element twice, and no link is dropped that it needs
later: the walk finds a view exactly where a chain leads to one.
-/

namespace FormWidgets.ContainmentLinks

variable {links : ContainmentLinks} {id parent : String} {root other : ViewRoot}

theorem owningView?_eq_none (unlinked : links.find? id = none) : links.owningView? id = none := by
  rw [owningView?]
  split
  · rfl
  · rename_i found
    cases unlinked.symm.trans found
  · rename_i found
    cases unlinked.symm.trans found

theorem owningView?_of_view (linked : links.find? id = some (.view root)) :
    links.owningView? id = some root := by
  rw [owningView?]
  split
  · rename_i found
    cases linked.symm.trans found
  · rename_i found
    cases linked.symm.trans found
    rfl
  · rename_i found
    cases linked.symm.trans found

theorem owningView?_of_element (linked : links.find? id = some (.element parent)) :
    links.owningView? id = owningView? (links.erase id) parent := by
  rw [owningView?]
  split
  · rename_i found
    cases linked.symm.trans found
  · rename_i found
    cases linked.symm.trans found
  · rename_i found
    cases linked.symm.trans found
    rfl

/-- What lies in a part of a view lies in the view. -/
theorem owningView?_of_element_in_view (inner : links.find? id = some (.element parent))
    (outer : links.find? parent = some (.view root)) : links.owningView? id = some root := by
  have other : parent ≠ id := by
    rintro rfl
    cases inner.symm.trans outer
  rw [owningView?_of_element inner]
  apply owningView?_of_view
  rw [NameMap.find?_erase, if_neg other, outer]

/-! ## Chains of links -/

/-- A chain of links leads from an element to a view, through this many elements above it. -/
inductive LeadsTo (links : ContainmentLinks) : Nat → String → ViewRoot → Prop where
  | view {id : String} {root : ViewRoot} (linked : links.find? id = some (.view root)) :
      LeadsTo links 0 id root
  | element {steps : Nat} {id parent : String} {root : ViewRoot}
      (linked : links.find? id = some (.element parent)) (above : LeadsTo links steps parent root) :
      LeadsTo links (steps + 1) id root

namespace LeadsTo

variable {steps more : Nat}

theorem unique (leads : links.LeadsTo steps id root) (again : links.LeadsTo more id other) :
    steps = more ∧ root = other := by
  induction leads generalizing more with
  | view linked =>
      cases again with
      | view linkedAgain =>
          cases linked.symm.trans linkedAgain
          exact ⟨rfl, rfl⟩
      | element linkedAgain _ => cases linked.symm.trans linkedAgain
  | element linked _ higher =>
      cases again with
      | view linkedAgain => cases linked.symm.trans linkedAgain
      | element linkedAgain above =>
          cases linked.symm.trans linkedAgain
          obtain ⟨same, sameView⟩ := higher above
          exact ⟨congrArg (· + 1) same, sameView⟩

/-- A chain that does not come to the dropped element begins with a link that is kept. -/
theorem find?_erase {dropped : String} (leads : links.LeadsTo steps id root)
    (avoids : ∀ passed ≤ steps, ¬ links.LeadsTo passed dropped root) :
    (links.erase dropped).find? id = links.find? id := by
  rw [NameMap.find?_erase, if_neg]
  rintro rfl
  exact avoids steps le_rfl leads

theorem erase {dropped : String} (leads : links.LeadsTo steps id root)
    (avoids : ∀ passed ≤ steps, ¬ links.LeadsTo passed dropped root) :
    LeadsTo (links.erase dropped) steps id root := by
  induction leads with
  | view linked =>
      have kept := find?_erase (.view linked) avoids
      exact .view (kept.trans linked)
  | element linked above higher =>
      have kept := find?_erase (.element linked above) avoids
      apply LeadsTo.element (kept.trans linked)
      exact higher fun passed early => avoids passed (Nat.le_succ_of_le early)

theorem of_erase {dropped : String} (leads : LeadsTo (links.erase dropped) steps id root) :
    links.LeadsTo steps id root := by
  have found : ∀ {id : String} {container : Container},
      (links.erase dropped).find? id = some container → links.find? id = some container := by
    intro id container linked
    rw [NameMap.find?_erase] at linked
    split at linked
    · cases linked
    · exact linked
  induction leads with
  | view linked => exact .view (found linked)
  | element linked _ higher => exact .element (found linked) higher

/-- The chain above an element does not come back to it, or it would have two lengths. -/
theorem above_erase (linked : links.find? id = some (.element parent))
    (above : links.LeadsTo steps parent root) : LeadsTo (links.erase id) steps parent root := by
  apply above.erase
  intro passed early back
  have same := (back.unique (.element linked above)).1
  omega

theorem owningView?_eq (leads : links.LeadsTo steps id root) :
    links.owningView? id = some root := by
  induction steps generalizing links id with
  | zero =>
      cases leads with
      | view linked => exact owningView?_of_view linked
  | succ steps higher =>
      cases leads with
      | element linked above =>
          rw [owningView?_of_element linked]
          exact higher (above_erase linked above)

end LeadsTo

/-- The walk finds a view exactly when a chain of links leads to it. -/
theorem owningView?_eq_some_iff :
    links.owningView? id = some root ↔ ∃ steps, links.LeadsTo steps id root := by
  constructor
  · intro walked
    induction links, id using owningView?.induct with
    | case1 links id unlinked =>
        rw [owningView?_eq_none unlinked] at walked
        cases walked
    | case2 links id view linked =>
        rw [owningView?_of_view linked] at walked
        cases walked
        exact ⟨0, .view linked⟩
    | case3 links id parent linked higher =>
        rw [owningView?_of_element linked] at walked
        obtain ⟨steps, above⟩ := higher walked
        exact ⟨steps + 1, .element linked (LeadsTo.of_erase above)⟩
  · rintro ⟨steps, leads⟩
    exact leads.owningView?_eq

end FormWidgets.ContainmentLinks
