import ContentQuery.Filter.Match
import ContentQuery.Proofs.Filter.Steps

/-!
# Walks along a path

A path is walked with the elements of lists in place of the lists, or with lists in the way. The first
walk reaches some slot always (**`Path.lookup_ne_nil`**), and the slot of the second walk alone where no
list stands before the last step (**`Path.lookup_of_straight`**). A path behind another one goes on from
each slot of that (**`Path.lookup_append_dot`**).

What stands at the end may be a list again, and many a reader of it goes on to its elements
(`Path.Element`).
-/

namespace ContentQuery

theorem Json.spread_ne_nil (v : Json) : v.spread ≠ [] := by
  match v with
  | .array (item :: rest) =>
      rw [spread]
      intro h
      exact spread_ne_nil item (List.append_eq_nil_iff.mp h).1
  | .array [] => simp [spread]
  | .object _ => simp [spread]
  | .null | .bool _ | .number _ | .string _ => simp [spread]

namespace Path

/-- Do the steps meet no list before the last of them? -/
def straight : List String → Json.Object → Bool
  | name :: next :: rest, members =>
    match members.get? name with
    | some (.array _) => false
    | some (.object inner) => straight (next :: rest) inner
    | _ => true
  | _, _ => true

variable {names : List String} {body : Json.Object}

theorem walk_ne_nil (hnames : names ≠ []) (body : Json.Object) : walk names body ≠ [] := by
  induction names generalizing body with
  | nil => exact absurd rfl hnames
  | cons name rest ih =>
      cases rest with
      | nil =>
          rw [walk_single]
          exact List.cons_ne_nil _ _
      | cons next rest =>
          cases hv : body.get? name with
          | none =>
              rw [walk_of_none hv]
              exact List.cons_ne_nil _ _
          | some v =>
              -- The first object that the value stands for has a slot already.
              obtain ⟨first, more, hspread⟩ := List.exists_cons_of_ne_nil v.spread_ne_nil
              rw [walk_of_some hv, hspread, List.flatMap_cons]
              intro h
              have hfirst := (List.append_eq_nil_iff.mp h).1
              cases first with
              | none => cases hfirst
              | some inner => exact ih (List.cons_ne_nil next rest) inner hfirst

/-- **A path reaches something** in every body, if only that it leads nowhere. -/
theorem lookup_ne_nil (body : Json.Object) (path : String) : lookup body path ≠ [] :=
  walk_ne_nil (steps_ne_nil path) body

theorem walk_of_straight (hnames : names ≠ []) (h : straight names body) :
    walk names body = [walkDirect names body] := by
  induction names generalizing body with
  | nil => exact absurd rfl hnames
  | cons name rest ih =>
      cases rest with
      | nil =>
          rw [walk, walkDirect]
          cases body.get? name <;> rfl
      | cons next rest =>
          rw [straight] at h
          rw [walkDirect]
          · cases hv : body.get? name with
            | none => rw [walk_of_none hv]
            | some v =>
                rw [hv] at h
                rw [walk_of_some hv]
                cases v with
                | object inner =>
                    rw [Json.spread, List.flatMap_singleton]
                    exact ih (List.cons_ne_nil next rest) h
                | array items => cases h
                | null | bool _ | number _ | string _ => rfl
          · exact List.cons_ne_nil next rest

/-- A list before the last step is in the way of what stands behind it. -/
theorem straight_of_walkDirect (h : walkDirect names body ≠ .unreachable) : straight names body := by
  induction names generalizing body with
  | nil => rfl
  | cons name rest ih =>
      cases rest with
      | nil => rfl
      | cons next rest =>
          rw [walkDirect] at h
          · rw [straight]
            split
            · next hitems =>
                rw [hitems] at h
                exact absurd rfl h
            · next hinner =>
                rw [hinner] at h
                exact ih h
            · rfl
          · exact List.cons_ne_nil next rest

/-- **Where no list stands on the way**, a path reaches the one slot that it reaches with lists in the
way. -/
theorem lookup_of_straight {path : String} (h : straight (steps path) body) :
    lookup body path = [resolve body path] :=
  walk_of_straight (steps_ne_nil path) h

/-- **What is reached with lists in the way** is all that is reached without. -/
theorem lookup_of_resolve {path : String} (h : resolve body path ≠ .unreachable) :
    lookup body path = [resolve body path] :=
  lookup_of_straight (straight_of_walkDirect h)

end Path

/-! ## One path after another -/

mutual

/-- Slots that a path reaches from a value. An object is entered, a list that is not empty gives what
all its items give, lists inside it included; from anything else the path leads nowhere. -/
def Json.reach (path : String) : Json → List Slot
  | .object members => Path.lookup members path
  | .array [] => [.unreachable]
  | .array (v :: rest) => v.reach path ++ Json.reachItems path rest
  | _ => [.unreachable]

def Json.reachItems (path : String) : List Json → List Slot
  | [] => []
  | v :: rest => v.reach path ++ Json.reachItems path rest

end

/-- Slots that a path reaches from a slot: nowhere, if there is no value in it. -/
def Slot.reach (path : String) : Slot → List Slot
  | .value v => v.reach path
  | .absent | .unreachable => [.unreachable]

mutual

/-- A path goes on from the objects that a value stands for. -/
theorem Json.reach_eq_spread (path : String) (v : Json) :
    v.reach path = v.spread.flatMap (Path.onward (Path.steps path)) := by
  cases v with
  | object members =>
      rw [Json.reach, Json.spread, List.flatMap_singleton]
      rfl
  | array items =>
      cases items with
      | nil => rfl
      | cons v rest =>
          rw [Json.reach, Json.spread, List.flatMap_append, Json.reach_eq_spread path v,
            Json.reachItems_eq_spread path rest]
  | null | bool _ | number _ | string _ => rfl

theorem Json.reachItems_eq_spread (path : String) (items : List Json) :
    Json.reachItems path items =
      (Json.spreadItems items).flatMap (Path.onward (Path.steps path)) := by
  cases items with
  | nil => rfl
  | cons v rest =>
      rw [Json.reachItems, Json.spreadItems, List.flatMap_append, Json.reach_eq_spread path v,
        Json.reachItems_eq_spread path rest]

end

theorem Slot.reach_eq_onward (path : String) (slot : Slot) :
    slot.reach path = slot.onward (Path.steps path) := by
  cases slot with
  | value v => exact v.reach_eq_spread path
  | absent | unreachable => rfl

namespace Path

/-- **One path after another** reaches what the second one reaches from the slots of the first. -/
theorem lookup_append_dot (body : Json.Object) (path more : String) :
    lookup body (path ++ "." ++ more) = (lookup body path).flatMap (Slot.reach more) := by
  rw [funext (Slot.reach_eq_onward more), lookup, steps_append_dot,
    walk_append_walk (steps_ne_nil path) (steps_ne_nil more)]
  rfl

/-- **The two walks agree, and they go on from where they end.** A path reaches something in every
body. Where the walk with lists in the way gets to the object of its last step, or the walk meets no
list before that step at all, both reach the same one slot. And a path that goes on behind another one
reaches, slot by slot, what it reaches from there. -/
theorem walks_agree (body : Json.Object) :
    (∀ path, lookup body path ≠ []) ∧
    (∀ path, resolve body path ≠ .unreachable → lookup body path = [resolve body path]) ∧
    (∀ path, straight (steps path) body → lookup body path = [resolve body path]) ∧
    ∀ path more, lookup body (path ++ "." ++ more) = (lookup body path).flatMap (Slot.reach more) :=
  ⟨lookup_ne_nil body, fun _ => lookup_of_resolve, fun _ => lookup_of_straight,
    lookup_append_dot body⟩

/-- A book whose parts are of all sorts: one with pages, an empty list, and one inside a list. -/
def book : Json.Object := [
  ("author", .object [("name", .string "Ann")]),
  ("parts", .array [.object [("pages", .ofNat 3)], .array [], .array [.object []]])]

/-- The name is reached by both walks, what is said of a missing title by neither, and the parts have
one slot each. -/
theorem walks_agree_book :
    resolve book "author.name" ≠ .unreachable ∧
      lookup book "author.name" = [.value (.string "Ann")] ∧
      straight (steps "title.short") book ∧ lookup book "title.short" = [.unreachable] ∧
      lookup book ("parts" ++ "." ++ "pages") = [.value (.ofNat 3), .unreachable, .absent] := by
  obtain ⟨-, hresolve, hstraight, happend⟩ := walks_agree book
  have hname : resolve book "author.name" ≠ .unreachable := Slot.noConfusion
  have htitle : straight (steps "title.short") book := by decide
  exact ⟨hname, hresolve _ hname, htitle, hstraight _ htitle, happend _ _⟩

end Path

/-! ## Elements -/

theorem Json.items_of_array? {v : Json} (h : v.array? = none) : v.items = [v] := by
  cases v <;> first | rfl | cases h

namespace Path

variable {body : Json.Object} {path : String} {v : Json}

/-- The value is an element of what a path reaches in a body; a value that is no list is its own only
element. -/
def Element (body : Json.Object) (path : String) (v : Json) : Prop :=
  ∃ w, Slot.value w ∈ lookup body path ∧ v ∈ w.items

/-- Where a path reaches no list, it reaches its elements. -/
theorem element_iff (h : ∀ v, Slot.value v ∈ lookup body path → v.array? = none) :
    Element body path v ↔ Slot.value v ∈ lookup body path := by
  constructor
  · rintro ⟨w, hw, hv⟩
    rw [Json.items_of_array? (h w hw), List.mem_singleton] at hv
    exact hv ▸ hw
  · intro hv
    exact ⟨v, hv, by simp [Json.items_of_array? (h v hv)]⟩

end Path

end ContentQuery
