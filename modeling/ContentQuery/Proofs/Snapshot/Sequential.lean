import ContentQuery.Proofs.Snapshot.Framing
import ContentQuery.Proofs.Snapshot.Returning
import ContentQuery.Proofs.Snapshot.Uncached

/-!
# Fields in sequence, nodes side by side

Within a node required fields are completed one after the other, each writing its own member and
nothing else; the nodes of a batch are completed side by side, each on its own. So what comes of a
request does not depend on how its parts are polled (**`Terms.completes_in_order`**).
-/

namespace ContentQuery

open Json (Object)

namespace Terms

variable (T : Terms) {t : ObjectType} {fields first second : RequiredFields} {node : Node}

/-- Completing the required fields of a node can end with this. -/
def CompletesTo (t : ObjectType) (fields : RequiredFields) (node : Node)
    (result : Except SnapshotError Json) : Prop :=
  Work.Ends T.stores (node.completion T.registry T.path t fields) result

/-- Snapshots, if the type of an order is there and every node has a body, and only then: one for each
node and in their order, with the node's own id, type and digest. -/
def Delivers (order : Order) (result : Except SnapshotError (List Node)) : Prop :=
  ((∃ snapshots, result = .ok snapshots) ↔ ∃ t, T.registry.type? order.typeName = some t ∧
    ∀ node ∈ order.nodes, (T.body? t order.fields node).isSome) ∧
  ∀ snapshots, result = .ok snapshots → ∀ t, T.registry.type? order.typeName = some t →
    List.Forall₂ (fun snapshot node => snapshot.id = node.id ∧ snapshot.typeName = node.typeName ∧
      snapshot.digest = node.digest ∧ T.body? t order.fields node = some snapshot.body)
      snapshots order.nodes

variable {T}

theorem Settled.delivers {order : Order} {result : Except SnapshotError (List Node)}
    (h : T.Settled order (.kept result)) : T.Delivers order result := by
  refine ⟨h.isOk_iff, ?_⟩
  rintro snapshots rfl t ht
  refine (h.snapshots ht).imp ?_
  rintro snapshot node ⟨body, stamp, hbody, rfl⟩
  exact ⟨rfl, rfl, rfl, hbody⟩

/-- A round of polls is a run like any other. -/
theorem Uncached.rounds {d : Desk} (h : T.Uncached d) (hpure : T.registry.Pure T.stores)
    (index n : Nat) : T.Uncached ((Desk.round index)^[n] d) := by
  induction n with
  | zero => exact h
  | succ n ih =>
      rw [Function.iterate_succ_apply', Desk.round_eq_run]
      apply ih.run hpure
      simp [Answers]

theorem body?_merge (hsecond : second.Distinct) (hnames : ∀ name ∈ second.names, name ∉ first.names)
    (stamp : Nat) : T.body? t (first.merge second) node =
      (T.body? t first node).bind fun body => T.body? t second (node.withBody body stamp) := by
  unfold body?
  rw [RequiredFields.merge_eq_append hsecond hnames, Completion.resolve_append]
  rfl

/-- **Two sets of fields, one after the other**: the second in the body that the first left. -/
theorem completesTo_merge_iff (hsecond : second.Distinct)
    (hnames : ∀ name ∈ second.names, name ∉ first.names) (stamp : Nat)
    {result : Except SnapshotError Json} : T.CompletesTo t (first.merge second) node result ↔
      (∃ body, T.CompletesTo t first node (.ok (.object body)) ∧
        T.CompletesTo t second (node.withBody body stamp) result) ∨
      ∃ e, result = .error e ∧ T.CompletesTo t first node (.error e) := by
  unfold CompletesTo
  rw [Node.completion_merge T.registry T.path t hsecond hnames node stamp, Work.ends_bind_iff]
  refine or_congr_left ⟨?_, ?_⟩
  · rintro ⟨v, hv, hresult⟩
    -- Completing the fields of an object gives an object.
    obtain ⟨out, -, hout⟩ := Completion.resolves_of_ends _ t first node.body hv
    obtain ⟨body, -, rfl⟩ := Option.map_eq_some_iff.mp hout.symm
    exact ⟨body, hv, hresult⟩
  · rintro ⟨body, hbody, hresult⟩
    exact ⟨.object body, hbody, hresult⟩

/-- With pure resolvers a node has one body, or it fails in any case. -/
theorem toOption_of_completesTo (hpure : T.registry.Pure T.stores) (ht : t ∈ T.registry.types)
    {result : Except SnapshotError Json} (h : T.CompletesTo t fields node result) :
    result.toOption = (T.body? t fields node).map .object :=
  Completion.toOption_of_ends_fields T.mem (hpure.pureOver ht fields) h

/-- **Fields are completed in sequence, each in its own frame, and nodes side by side.** Let every
resolver be pure.

Two sets of fields without a name in common are completed as one set as they are one after the other, the
second in the body that the first left: with the same bodies and the same errors; and what the first
left stays.

Completing a set of fields comes to an end, and to one body only or to none. Such a body is the node's
own, with the required members written one after the other and all others left alone, at every depth.

Where nothing is cached, a batch of a type that is there ends with snapshots if every node has such a
body, and with an error if one has none, however it and the others at its desk are polled; and each batch
that is polled in rounds does come to an end. The snapshots are those of the nodes in their order. -/
theorem completes_in_order (T : Terms) (hpure : T.registry.Pure T.stores) :
    (∀ t ∈ T.registry.types, ∀ first second : RequiredFields, second.Distinct →
      (∀ name ∈ second.names, name ∉ first.names) → ∀ (node : Node) (stamp : Nat),
      (∀ result, T.CompletesTo t (first.merge second) node result ↔
        (∃ body, T.CompletesTo t first node (.ok (.object body)) ∧
          T.CompletesTo t second (node.withBody body stamp) result) ∨
        ∃ e, result = .error e ∧ T.CompletesTo t first node (.error e)) ∧
      ∀ body out, T.body? t first node = some body →
        T.body? t second (node.withBody body stamp) = some out →
          T.body? t (first.merge second) node = some out ∧
            ∀ name ∈ first.names, out.get? name = body.get? name) ∧
    (∀ t ∈ T.registry.types, ∀ fields : RequiredFields, fields.Distinct → ∀ node : Node,
      (∃ result, T.CompletesTo t fields node result) ∧
      (∀ result, T.CompletesTo t fields node result →
        result.toOption = (T.body? t fields node).map .object) ∧
      ∀ body, T.body? t fields node = some body →
        Completion.Framed ⟨T.registry, T.path, node.id⟩ T.store t fields node.body body) ∧
    ∀ production : Bool,
      let d := Desk.start T.registry T.path ⟨production, false, false⟩ T.store
      (∀ events : List Desk.Event, (∀ event ∈ events, T.Answers event) →
        ∀ errand ∈ (d.run events).errands, ∀ result, errand.state = .kept result →
          T.Delivers errand.order result) ∧
      ∀ order, ∃ n result, ((Desk.round 0)^[n] (d.step (.request order))).errands[0]? =
        some ⟨order, .kept result⟩ ∧ T.Delivers order result := by
  refine ⟨?_, ?_, ?_⟩
  · intro t _ first second hsecond hnames node stamp
    refine ⟨fun result => completesTo_merge_iff hsecond hnames stamp, fun body out hbody hout => ?_⟩
    refine ⟨?_, fun name hname => ?_⟩
    · rw [body?_merge hsecond hnames stamp, hbody]
      exact hout
    · exact (Completion.frames_of_resolve hout).get? fun hmem => hnames name hmem hname
  · intro t ht fields hfields node
    refine ⟨Work.exists_ends T.mem _, fun result => toOption_of_completesTo hpure ht, ?_⟩
    intro body hbody
    exact Completion.framed_of_resolve hfields hbody
  · intro production d
    have hstart : T.Uncached d := uncached_start production
    refine ⟨fun events hevents errand hmem result hkept => ?_, fun order => ?_⟩
    · have hsettled := (hstart.run hpure hevents).errands errand hmem
      rw [hkept] at hsettled
      exact hsettled.delivers
    · obtain ⟨n, result, hkept⟩ : ∃ n result,
          ((Desk.round 0)^[n] (d.step (.request order))).errands[0]? = some ⟨order, .kept result⟩ :=
        Desk.returns (d := d) rfl rfl Agenda.sound_empty order
      have hrequested : T.Uncached (d.step (.request order)) := hstart.step hpure trivial
      have hrounds := hrequested.rounds hpure 0 n
      have hsettled := hrounds.errands _ (List.mem_of_getElem? hkept)
      exact ⟨n, result, hkept, hsettled.delivers⟩

/-- Pauses once and then answers with another member of the object. -/
def echo (name : String) : Resolver :=
  ⟨fun _ request => ⟨1, fun _ => .ok ((request.source.get? name).getD .null)⟩⟩

/-- Drafts have parts. Parts have a label, which is their name, and a caption, which is their label. -/
def captioned : Terms where
  registry := {
    types := [
      ⟨"Draft", true, [⟨"id", "ID", .leaf (.scalar .id), none, []⟩,
        ⟨"parts", "[Part]", .objectList "Part", none, []⟩]⟩,
      ⟨"Part", false, [⟨"name", "String", .leaf (.scalar .string), none, []⟩,
        ⟨"label", "String", .leaf (.scalar .string), some (echo "name"), []⟩,
        ⟨"caption", "String", .leaf (.scalar .string), some (echo "label"), []⟩]⟩]
    enums := [] }
  path := none
  stores _ := True
  store := .empty
  mem := trivial

theorem pure_captioned : captioned.registry.Pure captioned.stores := by
  intro t ht field hfield resolver hresolver
  simp only [captioned, List.mem_cons, List.not_mem_nil, or_false] at ht
  rcases ht with rfl | rfl
  all_goals
    simp only [List.mem_cons, List.not_mem_nil, or_false] at hfield
    rcases hfield with rfl | rfl | rfl
  all_goals cases hresolver
  all_goals
    intro attempt attempt' request now now' _ _
    rfl

def draftType : ObjectType := captioned.registry.types[0]

def partType : ObjectType := captioned.registry.types[1]

def label : RequiredFields := [⟨"label", []⟩]

def caption : RequiredFields := [⟨"caption", []⟩]

/-- A part as a node of its own. -/
def part : Node := ⟨"p", "Part", "1", [("name", .string "front")], 0⟩

/-- Asks for the captions of the parts of a draft, one of which is in a list of its own. -/
def captions : Order where
  typeName := "Draft"
  nodes := [⟨"a", "Draft", "1", [("parts", .array [.object part.body, .null,
    .array [.object part.body]]), ("id", .string "a")], 0⟩]
  fields := [⟨"parts", [⟨"label", []⟩, ⟨"caption", []⟩]⟩]

def withLabel : Object := [("name", .string "front"), ("label", .string "front")]

def withCaption : Object := withLabel ++ [("caption", .string "front")]

def captionedDraft : Object :=
  [("parts", .array [.object withCaption, .null, .array [.object withCaption]]), ("id", .string "a")]

/-- The caption sees the label, and the captions of the parts of a draft are found however deep they
stand. -/
theorem completes_in_order_captions :
    let start := Desk.start captioned.registry none ⟨false, false, false⟩ .empty
    let events : List Desk.Event := .request captions :: List.replicate 5 (.poll 0 .caller)
    captioned.registry.Pure captioned.stores ∧ RequiredFields.Distinct caption ∧
      captioned.body? partType (label.merge caption) part = some withCaption ∧
      (start.run events).errands =
        [⟨captions, .kept (.ok (captions.nodes.map (·.withBody captionedDraft 0)))⟩] ∧
      (∀ node ∈ captions.nodes, (captioned.body? draftType captions.fields node).isSome) ∧
      ∃ n snapshots, ((Desk.round 0)^[n] (start.step (.request captions))).errands[0]? =
        some ⟨captions, .kept (.ok snapshots)⟩ := by
  intro start events
  obtain ⟨hmerge, -, hbatch⟩ := completes_in_order captioned pure_captioned
  obtain ⟨hruns, hreturns⟩ := hbatch false
  have hcaption : RequiredFields.Distinct caption := by
    simp [caption, RequiredFields.distinct_cons, RequiredFields.distinct_nil, RequiredFields.names]
  have hdesk : (start.run events).errands =
      [⟨captions, .kept (.ok (captions.nodes.map (·.withBody captionedDraft 0)))⟩] := by
    with_unfolding_all rfl
  have hanswers : ∀ event ∈ events, captioned.Answers event := by
    simp [events, Answers]
  have hdelivers := hruns events hanswers _ (hdesk ▸ List.mem_singleton_self _) _ rfl
  obtain ⟨t, ht, hbodies⟩ := hdelivers.1.mp ⟨_, rfl⟩
  obtain rfl : t = draftType := (Option.some.inj ht).symm
  refine ⟨pure_captioned, hcaption, ?_, hdesk, hbodies, ?_⟩
  · refine ((hmerge partType (List.getElem_mem _) label caption hcaption (by decide) part 1).2 withLabel
      withCaption ?_ ?_).1
    all_goals
      simp [body?, Completion.resolve, Completion.inside?, FieldKind.objectType?, Completion.request,
        ObjectType.field?, Json.Object.insert, Json.Object.get?, label, caption, partType, captioned,
        part, echo, Node.withBody, withLabel, withCaption]
  · obtain ⟨n, result, hkept, hdelivers⟩ := hreturns captions
    obtain ⟨snapshots, rfl⟩ := hdelivers.1.mpr ⟨draftType, ht, hbodies⟩
    exact ⟨n, snapshots, hkept⟩

end Terms

end ContentQuery
