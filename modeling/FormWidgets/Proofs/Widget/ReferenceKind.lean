import FormWidgets.Proofs.ChildCreation.Places
import FormWidgets.Proofs.TypeSystem.NameReading
import FormWidgets.Proofs.TypeSystem.Registration
import FormWidgets.Proofs.Widget.CreationOwner
import Mathlib

/-!
# The kind of a reference, shown and used

A reference shows the qualified name of the type that its type expression names.
The places for new elements are looked up by that name, which is read again for
it.  The main statement says when this gives the type that is shown, and what it
gives otherwise.
-/

namespace FormWidgets

open ChildCreation

theorem DomainType.isEmpty_qualifiedName (type : DomainType) :
    type.qualifiedName.isEmpty = false := by
  have separated : type.qualifiedName.toList ≠ [] := by
    rw [qualifiedName, TypeName.text, String.toList_append, String.toList_append]
    simp
  rw [Bool.eq_false_iff, ne_eq, String.isEmpty_iff]
  intro empty
  rw [empty] at separated
  exact separated rfl

/-- The type that the name of a resolved type resolves to. -/
theorem TypeRegistry.IsBuilt.resolve_qualifiedName {registry : TypeRegistry}
    (built : registry.IsBuilt) {text : String} {type : DomainType}
    (resolved : registry.resolve text = .ok type) :
    (registry.resolve type.qualifiedName = .ok type ↔ ¬ EndsInColon type.typeName.space) ∧
      ∀ other, registry.resolve type.qualifiedName = .ok other →
        other = type ∨
          type.typeName.space = other.typeName.space ++ ":" ∧
            other.typeName.name = ":" ++ type.typeName.name := by
  obtain ⟨read, found⟩ := built.resolve_eq_ok_iff.mp resolved
  have isRead := TypeName.isRead_of_parse? read
  constructor
  · rw [built.resolve_eq_ok_iff, DomainType.qualifiedName,
      TypeName.parse?_text_eq_some_self_iff isRead]
    exact and_iff_left found
  · intro other resolvedAgain
    obtain ⟨readAgain, foundAgain⟩ := built.resolve_eq_ok_iff.mp resolvedAgain
    rcases TypeName.eq_or_moved_of_parse?_text isRead readAgain with same | moved
    · rw [same, found] at foundAgain
      exact .inl (Option.some.inj foundAgain).symm
    · exact .inr moved

/-- The expressions of a reference, for the kinds that are references. -/
def WidgetDetail.referenceExpressions? : WidgetDetail → Option ReferenceExpressions
  | .monoReference reference | .multiReference reference =>
      some ⟨reference.value, reference.owner, reference.type, reference.searchScope⟩
  | .containmentReference containment =>
      some ⟨containment.value, containment.owner, containment.type, none⟩
  | .primitiveList _ | .primitiveRadio _ | .languageExpression => none

/-- An answer depends on the edits asked for so far, not on the rest of the session. -/
theorem Evaluator.outcome_evaluate?_eq (evaluator : Evaluator) (context : Context)
    (expression : Option String) {first second : Session} (edits : first.edits = second.edits) :
    (Action.outcome (evaluator.evaluate? context expression) first).1 =
      (Action.outcome (evaluator.evaluate? context expression) second).1 := by
  cases expression with
  | none => rfl
  | some expression =>
      rw [evaluate?]
      split
      · rfl
      · rw [outcome_evaluate, outcome_evaluate, edits]

namespace Binder

variable (binder : Binder)

theorem reference?_boundDetail (widget : String) (detail : WidgetDetail) :
    (binder.boundDetail widget detail).reference? =
      detail.referenceExpressions?.map (binder.referenceProviders widget) := by
  cases detail <;> rfl

variable {binder} {context : Context} {session : Session} {expression : Option String}

theorem outcome_referenceKindProvider {text : String} {type : DomainType}
    (given : (Action.outcome (binder.evaluator.evaluate? context expression) session).1.text? =
      some text)
    (resolved : binder.registry.resolve text = .ok type) :
    (Action.outcome (binder.referenceKindProvider expression context) session).1 =
      type.qualifiedName := by
  rw [referenceKindProvider, Action.outcome_bind, given]
  dsimp only
  rw [resolved]
  rfl

/-- Places are offered for the type that the shown name resolves to. -/
theorem outcome_childCreationProvider {ownerExpression : Option String} {owner : Node}
    {text : String} {type : DomainType}
    (owned : (Action.outcome (binder.ownerProvider ownerExpression context) session).1 =
      some owner)
    (given : (Action.outcome (binder.evaluator.evaluate? context expression) session).1.text? =
      some text)
    (resolved : binder.registry.resolve text = .ok type) :
    (Action.outcome
        (binder.childCreationProvider ownerExpression expression context) session).1 =
      (Action.outcome
        (binder.catalogue.offers (binder.objects.kind owner) type.qualifiedName) session).1 := by
  have asked := (binder.onlyAsks_ownerProvider ownerExpression context session).2.1
  rw [binder.evaluator.outcome_evaluate?_eq context expression asked.symm] at given
  rw [childCreationProvider, Action.outcome_bind, owned]
  dsimp only
  rw [Action.outcome_bind, outcome_referenceKindProvider given resolved,
    if_neg (by rw [type.isEmpty_qualifiedName]; exact Bool.false_ne_true),
    Catalogue.outcome_offers, Catalogue.outcome_offers]

/-! ## The kind that is shown -/

/-- A reference shows a type as its kind, and offers places by the name that it shows. -/
structure ShowsKind (binder : Binder) (reference : ReferenceProviders) (type : DomainType)
    (context : Context) (session : Session) : Prop where
  shown : (Action.outcome (reference.referenceKind context) session).1 = type.qualifiedName
  usesShown_iff :
    binder.registry.resolve type.qualifiedName = .ok type ↔ ¬ EndsInColon type.typeName.space
  /-- The only other type that the shown name can stand for has the colon in its own name. -/
  usesMoved : ∀ other, binder.registry.resolve type.qualifiedName = .ok other →
    other = type ∨
      type.typeName.space = other.typeName.space ++ ":" ∧
        other.typeName.name = ":" ++ type.typeName.name
  offers : ∀ owner container used,
    (Action.outcome (reference.owner context) session).1 = some owner →
      binder.registry.resolve (binder.objects.kind owner) = .ok container →
      binder.registry.resolve type.qualifiedName = .ok used →
      (Action.outcome (reference.childCreation context) session).1 =
        binder.catalogue.offersFor container used
  offersNothing : ∀ error, binder.registry.resolve type.qualifiedName = .error error →
    (Action.outcome (reference.childCreation context) session).1 = []

theorem showsKind_referenceProviders (built : binder.registry.IsBuilt) (widget : String)
    (expressions : ReferenceExpressions) {text : String} {type : DomainType}
    (given : (Action.outcome (binder.evaluator.evaluate? context expressions.type)
      session).1.text? = some text)
    (resolved : binder.registry.resolve text = .ok type) :
    binder.ShowsKind (binder.referenceProviders widget expressions) type context session := by
  obtain ⟨usesShown, usesMoved⟩ := built.resolve_qualifiedName resolved
  have offered : ∀ owner,
      (Action.outcome (binder.ownerProvider expressions.owner context) session).1 = some owner →
        (Action.outcome
            (binder.childCreationProvider expressions.owner expressions.type context)
            session).1 =
          (Action.outcome
            (binder.catalogue.offers (binder.objects.kind owner) type.qualifiedName)
            session).1 :=
    fun owner owned => outcome_childCreationProvider owned given resolved
  constructor
  case shown => exact outcome_referenceKindProvider given resolved
  case usesShown_iff => exact usesShown
  case usesMoved => exact usesMoved
  case offers =>
    intro owner container used owned contained used_eq
    change binder.catalogue.registry.resolve _ = _ at contained used_eq
    refine (offered owner owned).trans ?_
    rw [Catalogue.outcome_offers, contained, used_eq]
  case offersNothing =>
    intro error unresolved
    change binder.catalogue.registry.resolve _ = _ at unresolved
    cases owned : (Action.outcome (binder.ownerProvider expressions.owner context) session).1 with
    | none => exact binder.childCreationProvider_of_no_owner owned
    | some owner =>
        refine (offered owner owned).trans ?_
        rw [Catalogue.outcome_offers, unresolved]
        cases binder.catalogue.registry.resolve (binder.objects.kind owner) with
        | error failure => rfl
        | ok container => rfl

/--
A name that was read is read back from its text exactly when its namespace does
not end in a colon.  Under the same condition a bound reference whose type
expression resolves to a type offers places by the type that it shows.
-/
theorem shown_kind_is_used_iff (binder : Binder) (built : binder.registry.IsBuilt) :
    (∀ text typeName, TypeName.parse? text = some typeName →
      (TypeName.parse? typeName.text = some typeName ↔ ¬ EndsInColon typeName.space)) ∧
    ∀ (description : WidgetDescription) (expressions : ReferenceExpressions)
      (bound session : Session) (context : Context) (text : String) (type : DomainType),
      description.detail.referenceExpressions? = some expressions →
      (Action.outcome (binder.evaluator.evaluate? context expressions.type) session).1.text? =
        some text →
      binder.registry.resolve text = .ok type →
      ∃ reference,
        (Action.outcome (binder.bind description) bound).1.detail.reference? = some reference ∧
          binder.ShowsKind reference type context session := by
  constructor
  · intro text typeName read
    exact TypeName.parse?_text_eq_some_self_iff (TypeName.isRead_of_parse? read)
  · intro description expressions bound session context text type isReference given resolved
    refine ⟨binder.referenceProviders description.id expressions, ?_,
      showsKind_referenceProviders built description.id expressions given resolved⟩
    exact (binder.reference?_boundDetail description.id description.detail).trans
      (by rw [isReference, Option.map_some])

/-! ## A shelf of books -/

/-- A shelf for books that belong to a namespace. -/
def shelfTypes (space : String) : TypeRegistry :=
  (TypeRegistry.empty.add { type := { typeName := ⟨space, "Book"⟩ } }).add
    { type := { typeName := ⟨"lib", "Shelf"⟩ },
      relations := [⟨"books", space ++ ".Book", true, true⟩] }

theorem isBuilt_shelfTypes (space : String) : (shelfTypes space).IsBuilt := by
  have book : (TypeRegistry.empty.add { type := { typeName := ⟨space, "Book"⟩ } }).IsBuilt :=
    .register .empty (TypeRegistry.register_eq_ok_iff.mpr ⟨rfl, rfl⟩)
  refine .register book (TypeRegistry.register_eq_ok_iff.mpr ⟨?_, rfl⟩)
  rw [TypeRegistry.position?_add, if_neg]
  · rfl
  · simp

/-- A host whose expression "kind" names the books with a point. -/
def shelfBinder (space : String) : Binder :=
  let host : HostScript :=
    { answers := NameMap.empty.put "kind" (.text (space ++ ".Book"))
      nodes := NameMap.empty.put "shelf" { kind := some "lib::Shelf" } }
  { host.binder fun _ context => pure (some context) with registry := shelfTypes space }

/-- A containment reference of books, whose type is given by an expression. -/
def shelvedBooks : WidgetDescription where
  id := "books"
  name := "books"
  detail := .containmentReference { type := some "kind" }

/-- Books of a plain namespace are offered under the name that is shown. -/
theorem shown_kind_is_used_in_shop :
    let binder := shelfBinder "shop"
    let onShelf := Context.ofSelf (.node ⟨"shelf"⟩)
    binder.registry.IsBuilt ∧
      TypeName.parse? "shop.Book" = some ⟨"shop", "Book"⟩ ∧
      TypeName.parse? "shop::Book" = some ⟨"shop", "Book"⟩ ∧
      ∃ reference,
        (Action.outcome (binder.bind shelvedBooks) {}).1.detail.reference? = some reference ∧
          (Action.outcome (reference.referenceKind onShelf) {}).1 = "shop::Book" ∧
          (Action.outcome (reference.childCreation onShelf) {}).1.map Offer.key =
            ["books::Book"] := by
  intro binder onShelf
  have built : binder.registry.IsBuilt := isBuilt_shelfTypes "shop"
  obtain ⟨parser, provider⟩ := shown_kind_is_used_iff binder built
  have read : TypeName.parse? "shop.Book" = some ⟨"shop", "Book"⟩ := by decide
  obtain ⟨reference, isReference, shows⟩ := provider shelvedBooks _ {} {} onShelf "shop.Book"
    { typeName := ⟨"shop", "Book"⟩ } rfl rfl (by decide)
  have used := shows.usesShown_iff.mpr (by decide)
  obtain rfl : binder.referenceProviders "books" ⟨none, none, some "kind", none⟩ = reference :=
    Option.some.inj isReference
  have offers := shows.offers ⟨"shelf"⟩ { typeName := ⟨"lib", "Shelf"⟩ } _ rfl (by decide) used
  refine ⟨built, read, (parser _ _ read).mpr (by decide), _, isReference, shows.shown, ?_⟩
  rw [offers]
  cbv

/-- Books of a namespace that ends in a colon are shown, but the shown name is not theirs. -/
theorem shown_kind_not_used_after_colon :
    let binder := shelfBinder "shop:"
    let onShelf := Context.ofSelf (.node ⟨"shelf"⟩)
    binder.registry.IsBuilt ∧
      TypeName.parse? "shop:.Book" = some ⟨"shop:", "Book"⟩ ∧
      TypeName.parse? (TypeName.text ⟨"shop:", "Book"⟩) = some ⟨"shop", ":Book"⟩ ∧
      binder.registry.resolve "shop:.Book" = .ok { typeName := ⟨"shop:", "Book"⟩ } ∧
      ∃ reference,
        (Action.outcome (binder.bind shelvedBooks) {}).1.detail.reference? = some reference ∧
          (Action.outcome (reference.referenceKind onShelf) {}).1 = "shop:::Book" ∧
          binder.registry.resolve "shop:::Book" = .error (.unresolvedType "shop:::Book") ∧
          (Action.outcome (reference.childCreation onShelf) {}).1 = [] := by
  intro binder onShelf
  have resolved : binder.registry.resolve "shop:.Book" =
      .ok { typeName := ⟨"shop:", "Book"⟩ } := by decide
  have notFound : binder.registry.resolve "shop:::Book" =
      .error (.unresolvedType "shop:::Book") := by decide
  let reference := binder.referenceProviders "books" ⟨none, none, some "kind", none⟩
  have shows : binder.ShowsKind reference _ onShelf {} :=
    showsKind_referenceProviders (isBuilt_shelfTypes "shop:") "books" _ rfl resolved
  exact ⟨isBuilt_shelfTypes "shop:", by decide, by decide, resolved, _, rfl, shows.shown,
    notFound, shows.offersNothing _ notFound⟩

end Binder

end FormWidgets
