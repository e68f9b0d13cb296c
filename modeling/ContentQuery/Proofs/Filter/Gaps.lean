import ContentQuery.Proofs.Filter.Derivations

/-!
# Registries with gaps

A registry may lack a type that a field refers to. A derivation that comes upon the gap fails, and so do
those of all types that were under derivation by then, but what was derived below them is kept. One of
the types that are kept may refer to a type that failed, since a type under derivation is referred to
before it is known what becomes of it. Asked for such a type anew, the gap is not come upon: there is a
shape where a derivation from scratch fails (**`Shape.derive_author_after_book`**).

This is all that can happen (**`Shape.derive_among_gaps`**). A shape that is derived from scratch is
always derived, an error is never another one, and where there is a shape instead of an error, the
type and one that was asked for before, which failed, both lead to a cycle.
-/

namespace ContentQuery

namespace Registry

variable {r : Registry} {kept : List String} {typeName : String}

/-- What is kept helps only if the way to the gap leads past it. -/
theorem Breaks.exists_kept (h : r.Breaks [] typeName) (hkept : ¬r.Breaks kept typeName) :
    ∃ name ∈ kept, r.LeadsTo typeName name ∧ r.Breaks [] name := by
  induction h with
  | missing ht => exact absurd (.missing ht) hkept
  | @via name nested _ hrefers hnested ih =>
      by_cases hmem : name ∈ kept
      · exact ⟨name, hmem, .refl, .via List.not_mem_nil hrefers hnested⟩
      · obtain ⟨found, hfound, hleads, hbreaks⟩ := ih fun h => hkept (.via hmem hrefers h)
        exact ⟨found, hfound, hleads.head hrefers, hbreaks⟩

theorem Breaks.of_leadsTo {root : String} (h : r.Breaks [] typeName)
    (hleads : r.LeadsTo root typeName) : r.Breaks [] root := by
  obtain ⟨gap, hgap, hnone⟩ := breaks_nil_iff.mp h
  exact breaks_nil_iff.mpr ⟨gap, hleads.trans hgap, hnone⟩

end Registry

namespace ShapeMemo

variable {r : Registry} {memo memo' : ShapeMemo}

/-- If all that is new is placed, no way by new types leads to a gap. -/
theorem Closes.not_breaks (h : Closes r [] memo memo') (hfaithful : memo'.Faithful r)
    {name : String} (hname : name ∈ memo'.names) : ¬r.Breaks memo.names name := by
  intro hbreaks
  induction hbreaks with
  | missing ht =>
      have hthere := hfaithful.isSome hname
      rw [ht] at hthere
      cases hthere
  | @via name nested hnew hrefers _ ih =>
      exact ih ((h name hname hnew nested hrefers).resolve_right List.not_mem_nil)

theorem sound_nil (r : Registry) : Sound r [] :=
  ⟨fun _ hmem => (List.not_mem_nil hmem).elim, fun _ hmem => (List.not_mem_nil hmem).elim⟩

/-- Whatever was asked for, what is kept is sound, and is under a type that was asked for. -/
theorem sound_after (r : Registry) (asked : List String) :
    (after r asked).Sound r ∧
      ∀ name ∈ (after r asked).names, ∃ root ∈ asked, r.LeadsTo root name := by
  induction asked using List.reverseRecOn with
  | nil => exact ⟨sound_nil r, fun _ hmem => (List.not_mem_nil hmem).elim⟩
  | append_singleton asked typeName ih =>
      obtain ⟨hsound, hunder⟩ := ih
      have hderived := Shape.derived_derive hsound typeName
      rw [after_append]
      refine ⟨hderived.sound, fun name hname => ?_⟩
      rcases hderived.grows.under name hname with hold | hleads
      · obtain ⟨root, hroot, hleads⟩ := hunder name hold
        exact ⟨root, List.mem_append_left _ hroot, hleads⟩
      · exact ⟨typeName, by simp, hleads⟩

end ShapeMemo

namespace Shape

variable {r : Registry} {memo : ShapeMemo}

/-- A derivation fails if a way that leads past all that is kept comes to a gap. -/
theorem derive_error_iff (hmemo : memo.Sound r) (typeName : String) :
    (∃ e, (derive r memo typeName).2 = .error e) ↔ r.Breaks memo.names typeName := by
  have hderived := derived_derive hmemo typeName
  constructor
  · rintro ⟨e, he⟩
    exact (hderived.error e he).1
  · intro hbreaks
    cases hresult : (derive r memo typeName).2 with
    | error e => exact ⟨e, rfl⟩
    | ok shape =>
        obtain ⟨-, hmem, hcloses⟩ := hderived.ok shape hresult
        exact absurd hbreaks (hcloses.not_breaks hderived.sound.faithful hmem)

/-- A shape is the same one, whatever is kept. -/
theorem derive_ok_unique {memo' : ShapeMemo} (hmemo : memo.Sound r) (hmemo' : memo'.Sound r)
    {typeName : String} {shape shape' : Shape} (h : (derive r memo typeName).2 = .ok shape)
    (h' : (derive r memo' typeName).2 = .ok shape') : shape' = shape := by
  obtain ⟨⟨t, ht, rfl⟩, -⟩ := (derived_derive hmemo typeName).ok shape h
  obtain ⟨⟨t', ht', rfl⟩, -⟩ := (derived_derive hmemo' typeName).ok shape' h'
  rw [ht] at ht'
  rw [Option.some.inj ht']

/-- Which error it is depends on whether the type itself is there. -/
theorem code_of_derive_error (hmemo : memo.Sound r) {typeName : String} {e : SchemaError}
    (h : (derive r memo typeName).2 = .error e) :
    e.code = if (r.type? typeName).isSome then "NQ_UNKNOWN_FIELD" else "NQ_UNKNOWN_TYPE" := by
  obtain ⟨-, hfield, hmissing⟩ := (derived_derive hmemo typeName).error e h
  by_cases hthere : (r.type? typeName).isSome
  · obtain ⟨owner, field, rfl⟩ := hfield hthere
    rw [if_pos hthere]
    rfl
  · rw [if_neg hthere, hmissing (Option.not_isSome_iff_eq_none.mp hthere)]
    rfl

/-- **Deriving in a registry with gaps.** Whatever types were asked for before,

* a derivation from scratch fails exactly if fields lead to a type that is not there, and a derivation
  later on exactly if they do so past all types that are kept;
* a shape that is derived from scratch is derived later on too;
* if both fail, it is with the same code;
* and if there is a shape in place of an error, some type that was asked for before would fail from
  scratch as well, and both types lead to one that leads back to itself. -/
theorem derive_among_gaps (r : Registry) (asked : List String) (typeName : String) :
    let memo := ShapeMemo.after r asked
    ((∃ e, (derive r [] typeName).2 = .error e) ↔
      ∃ gap, r.LeadsTo typeName gap ∧ r.type? gap = none) ∧
    ((∃ e, (derive r memo typeName).2 = .error e) ↔ r.Breaks memo.names typeName) ∧
    (∀ shape, (derive r [] typeName).2 = .ok shape → (derive r memo typeName).2 = .ok shape) ∧
    (∀ e e', (derive r [] typeName).2 = .error e → (derive r memo typeName).2 = .error e' →
      e'.code = e.code) ∧
    ∀ e shape, (derive r [] typeName).2 = .error e → (derive r memo typeName).2 = .ok shape →
      ∃ root ∈ asked, (∃ e, (derive r [] root).2 = .error e) ∧
        ∃ reached, r.LeadsTo root reached ∧ r.LeadsTo typeName reached ∧
          Relation.TransGen r.RefersTo reached reached := by
  intro memo
  obtain ⟨hsound, hunder⟩ := ShapeMemo.sound_after r asked
  have hempty := ShapeMemo.sound_nil r
  have hfresh := derive_error_iff hempty
  have hlater := derive_error_iff hsound typeName
  refine ⟨(hfresh typeName).trans Registry.breaks_nil_iff, hlater, ?_, ?_, ?_⟩
  · intro shape hshape
    cases hresult : (derive r memo typeName).2 with
    | ok shape' => rw [derive_ok_unique hempty hsound hshape hresult]
    | error e =>
        have hbreaks : r.Breaks [] typeName := (hlater.mp ⟨e, hresult⟩).anti (List.nil_subset _)
        obtain ⟨e', he'⟩ := (hfresh typeName).mpr hbreaks
        rw [hshape] at he'
        cases he'
  · intro e e' he he'
    rw [code_of_derive_error hempty he, code_of_derive_error hsound he']
  · intro e shape he hshape
    have hpast : ¬r.Breaks memo.names typeName := by
      intro hbreaks
      obtain ⟨e', he'⟩ := hlater.mpr hbreaks
      rw [hshape] at he'
      cases he'
    obtain ⟨name, hkept, hleads, hbreaks⟩ := ((hfresh typeName).mp ⟨e, he⟩).exists_kept hpast
    obtain ⟨root, hroot, hrootLeads⟩ := hunder name hkept
    obtain ⟨reached, hreached, hcycle⟩ := hsound.circles name hkept hbreaks
    exact ⟨root, hroot, (hfresh root).mpr (hbreaks.of_leadsTo hrootLeads), reached,
      hrootLeads.trans hreached, hleads.trans hreached, hcycle⟩

/-! ### A book on a shelf that is not there -/

/-- Books have an author and a shelf, authors have a book, and nothing is known of shelves. -/
def bookRegistry : Registry where
  types := [
    ⟨"Book", false, [
      ⟨"author", "Author", .object "Author", none, []⟩,
      ⟨"shelf", "Shelf", .object "Shelf", none, []⟩]⟩,
    ⟨"Author", false, [
      ⟨"name", "String", .leaf (.scalar .string), none, []⟩,
      ⟨"book", "Book", .object "Book", none, []⟩]⟩]
  enums := []

/-- **What is kept can hide a gap.** From scratch, an author fails for the shelf of the book. After a
book was asked for, which fails as well, an author has a shape. -/
theorem derive_author_after_book :
    (derive bookRegistry [] "Author").2 = .error (.unknownField "Book" "shelf") ∧
    (derive bookRegistry (ShapeMemo.after bookRegistry ["Book"]) "Author").2 =
      .ok ⟨"Author", [("name", .operators Operator.textual), ("book", .object "Book")]⟩ :=
  ⟨rfl, rfl⟩

/-- The book leads back to itself by way of its author. -/
theorem derive_among_gaps_author :
    (∃ e, (derive bookRegistry [] "Author").2 = .error e) ∧
    (∃ shape, (derive bookRegistry (ShapeMemo.after bookRegistry ["Book"]) "Author").2 =
      .ok shape) ∧
    ∃ reached, bookRegistry.LeadsTo "Book" reached ∧ bookRegistry.LeadsTo "Author" reached ∧
      Relation.TransGen bookRegistry.RefersTo reached reached := by
  have hfresh : (derive bookRegistry [] "Author").2 = .error (.unknownField "Book" "shelf") := rfl
  have hlater : (derive bookRegistry (ShapeMemo.after bookRegistry ["Book"]) "Author").2 =
      .ok ⟨"Author", [("name", .operators Operator.textual), ("book", .object "Book")]⟩ := rfl
  obtain ⟨-, -, -, -, hdiffers⟩ := derive_among_gaps bookRegistry ["Book"] "Author"
  obtain ⟨root, hroot, -, hcycle⟩ := hdiffers _ _ hfresh hlater
  obtain rfl := List.mem_singleton.mp hroot
  exact ⟨⟨_, hfresh⟩, ⟨_, hlater⟩, hcycle⟩

end Shape

end ContentQuery
