import ContentQuery.Node.Path

/-!
# Walking a path one name at a time

A dotted path is walked as a whole; a filter is read one field name at a time. Both reach the same
slots: the path of a member reaches what the member's name steps to from the slots of the path before
(`lookup_child`), as long as the name has no dot of its own.
-/

namespace ContentQuery

/-! ## Steps -/

/-- The slot of a member of an object. -/
def Slot.member (name : String) (members : Json.Object) : Slot :=
  match members.get? name with
  | some v => .value v
  | none => .absent

mutual

/-- Slots that a name steps to from a value. An object gives its member, a list that is not empty what
all its elements give, lists inside it included; from anything else the name leads nowhere. -/
def Json.step (name : String) : Json → List Slot
  | .object members => [.member name members]
  | .array [] => [.unreachable]
  | .array (v :: rest) => v.step name ++ Json.stepItems name rest
  | _ => [.unreachable]

def Json.stepItems (name : String) : List Json → List Slot
  | [] => []
  | v :: rest => v.step name ++ Json.stepItems name rest

end

/-- Slots that a name steps to from a slot. -/
def Slot.step (name : String) : Slot → List Slot
  | .value v => v.step name
  | _ => [.unreachable]

/-! ## Names without dots -/

namespace Path

theorem splitDots_ne_nil (cs : List Char) : splitDots cs ≠ [] := by
  cases cs with
  | nil => simp [splitDots]
  | cons c cs =>
      unfold splitDots
      split
      · simp
      · split <;> simp

/-- A dot parts what stands before it from what stands after it. -/
theorem splitDots_append_dot (front back : List Char) :
    splitDots (front ++ '.' :: back) = splitDots front ++ splitDots back := by
  induction front with
  | nil => simp [splitDots]
  | cons c front ih =>
      rw [List.cons_append]
      by_cases hc : c = '.'
      · simp [splitDots, hc, ih]
      · cases hfront : splitDots front with
        | nil => exact absurd hfront (splitDots_ne_nil front)
        | cons s rest => simp [splitDots, hc, ih, hfront]

theorem splitDots_of_not_mem {cs : List Char} (h : '.' ∉ cs) : splitDots cs = [cs] := by
  induction cs with
  | nil => rfl
  | cons c cs ih =>
      have hc : c ≠ '.' := fun heq => h (by simp [heq])
      have hcs : '.' ∉ cs := fun hmem => h (List.mem_cons_of_mem c hmem)
      simp [splitDots, hc, ih hcs]

theorem steps_of_not_mem {name : String} (h : '.' ∉ name.toList) : steps name = [name] := by
  simp [steps, splitDots_of_not_mem h]

theorem steps_ne_nil (path : String) : steps path ≠ [] := by
  simp [steps, splitDots_ne_nil]

/-- A dot between two paths parts their steps. -/
theorem steps_append_dot (path more : String) :
    steps (path ++ "." ++ more) = steps path ++ steps more := by
  rw [steps, String.toList_append, String.toList_append]
  have hdot : path.toList ++ ".".toList ++ more.toList = path.toList ++ '.' :: more.toList := by
    simp
  rw [hdot, splitDots_append_dot, List.map_append]
  rfl

/-- The path of a member has one step more. -/
theorem steps_child {path name : String} (hpath : path ≠ "") (hname : '.' ∉ name.toList) :
    steps (child path name) = steps path ++ [name] := by
  rw [child, if_neg hpath, steps_append_dot, steps_of_not_mem hname]

theorem child_ne_empty {path name : String} (hname : name ≠ "") : child path name ≠ "" := by
  unfold child
  split
  · exact hname
  · intro h
    have hlength := congrArg String.length h
    simp only [String.length_append] at hlength
    have hdot : ".".length = 1 := rfl
    have hempty : "".length = 0 := rfl
    omega

end Path

/-! ## The lookup of a member -/

mutual

/-- Stepping from a value is one more step from the objects that it stands for. -/
theorem Json.step_eq_spread (name : String) (v : Json) :
    v.step name = v.spread.flatMap fun
      | some inner => Path.walk [name] inner
      | none => [.unreachable] := by
  cases v with
  | object members =>
      simp only [Json.step, Json.spread, List.flatMap_singleton, Path.walk, Slot.member]
      cases Json.Object.get? name members <;> rfl
  | array items =>
      cases items with
      | nil => simp [Json.step, Json.spread]
      | cons v rest =>
          simp only [Json.step, Json.spread, List.flatMap_append]
          rw [Json.step_eq_spread name v, Json.stepItems_eq_spread name rest]
  | _ => simp [Json.step, Json.spread]

theorem Json.stepItems_eq_spread (name : String) (items : List Json) :
    Json.stepItems name items = (Json.spreadItems items).flatMap fun
      | some inner => Path.walk [name] inner
      | none => [.unreachable] := by
  cases items with
  | nil => rfl
  | cons v rest =>
      simp only [Json.stepItems, Json.spreadItems, List.flatMap_append]
      rw [Json.step_eq_spread name v, Json.stepItems_eq_spread name rest]

end

namespace Path

/-- What some steps reach from what the name before them stands for. -/
def onward (names : List String) : Option Json.Object → List Slot
  | some inner => walk names inner
  | none => [.unreachable]

end Path

/-- What some steps reach from a slot. -/
def Slot.onward (names : List String) : Slot → List Slot
  | .value v => v.spread.flatMap (Path.onward names)
  | _ => [.unreachable]

theorem Slot.onward_single (name : String) (slot : Slot) : slot.onward [name] = slot.step name := by
  cases slot with
  | value v => exact (Json.step_eq_spread name v).symm
  | absent | unreachable => rfl

namespace Path

variable {name next : String} {rest : List String} {body : Json.Object}

theorem walk_of_some {v : Json} (h : body.get? name = some v) :
    walk (name :: next :: rest) body = v.spread.flatMap (onward (next :: rest)) := by
  rw [walk, h]
  · rfl
  · exact List.cons_ne_nil next rest

theorem walk_of_none (h : body.get? name = none) :
    walk (name :: next :: rest) body = [.unreachable] := by
  rw [walk, h]
  exact List.cons_ne_nil next rest

/-- **One walk after another.** What a longer walk reaches is what its last steps reach from the slots
of the first ones. -/
theorem walk_append_walk {names more : List String} (hnames : names ≠ []) (hmore : more ≠ [])
    (body : Json.Object) :
    walk (names ++ more) body = (walk names body).flatMap (Slot.onward more) := by
  induction names generalizing body with
  | nil => exact absurd rfl hnames
  | cons first rest ih =>
      cases rest with
      | nil =>
          obtain ⟨next, others, rfl⟩ := List.exists_cons_of_ne_nil hmore
          cases hv : body.get? first with
          | none => simp [walk_of_none hv, walk, hv, Slot.onward]
          | some v => simp [walk_of_some hv, walk, hv, Slot.onward]
      | cons second rest =>
          rw [List.cons_append, List.cons_append]
          cases hv : body.get? first with
          | none => simp [walk_of_none hv, Slot.onward]
          | some v =>
              rw [walk_of_some hv, walk_of_some hv, List.flatMap_assoc]
              congr 1
              funext inner
              cases inner with
              | none => simp [onward, Slot.onward]
              | some inner => exact ih (List.cons_ne_nil second rest) inner

/-- **One name more.** What a longer walk reaches is what its last name steps to. -/
theorem walk_append {names : List String} (h : names ≠ []) (name : String) (body : Json.Object) :
    walk (names ++ [name]) body = (walk names body).flatMap (Slot.step name) := by
  rw [walk_append_walk h (List.cons_ne_nil name []), funext (Slot.onward_single name)]

/-- The path of a member reaches what the member's name steps to. -/
theorem lookup_child {path name : String} (hpath : path ≠ "") (hname : '.' ∉ name.toList)
    (body : Json.Object) :
    lookup body (child path name) = (lookup body path).flatMap (Slot.step name) := by
  rw [lookup, steps_child hpath hname, walk_append (steps_ne_nil path)]
  rfl

theorem walk_single (name : String) (body : Json.Object) :
    walk [name] body = [.member name body] := by
  rw [walk, Slot.member]
  cases body.get? name <;> rfl

theorem lookup_of_not_mem {name : String} (h : '.' ∉ name.toList) (body : Json.Object) :
    lookup body name = [.member name body] := by
  rw [lookup, steps_of_not_mem h, walk_single]

end Path

end ContentQuery
