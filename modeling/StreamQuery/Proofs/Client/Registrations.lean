import StreamQuery.Client.Basic
import StreamQuery.Proofs.Keyed
import StreamQuery.Proofs.Response.TextLines
import StreamQuery.Proofs.Results
import StreamQuery.Proofs.Schema.Building
/-!
# The history of a registry

Several callers share a client. They ask for descriptions, which may fail at every stage and may be
under way while others keep, remove or clear schemas. What is registered in the end is what was kept
last under a name and not taken away since; a description that fails leaves no trace.
-/

namespace StreamQuery

open Dispatch Text

namespace Registry

variable (registry : Registry)

theorem get?_set (schema : Schema) (relation : String) :
    (registry.set schema).get? relation =
      if sameWord schema.name relation then some schema else registry.get? relation := by
  simp only [set, get?, Keyed.find?_insert, sameWord, beq_iff_eq, @eq_comm _ (upperCase relation)]

theorem get?_remove (removed relation : String) :
    (registry.remove removed).get? relation =
      if sameWord removed relation then none else registry.get? relation := by
  simp only [remove, get?, Keyed.find?_erase, sameWord, beq_iff_eq, @eq_comm _ (upperCase relation)]

theorem get?_clear (relation : String) : registry.clear.get? relation = none :=
  rfl

end Registry

/-! ### Descriptions -/

theorem SourceDescription.schema_name {relation : String} {description : SourceDescription}
    {schema : Schema} (described : description.schema relation = .ok schema) :
    schema.name = relation := by
  unfold SourceDescription.schema at described
  have kept {start : Schema} (columns : List ColumnDescription)
      (built : columns.foldlM (fun built column => column.column >>= fun column =>
        built.insert column) start = .ok schema) : schema.name = start.name := by
    induction columns generalizing start with
    | nil =>
        cases built
        rfl
    | cons column rest ih =>
        rw [List.foldlM_cons] at built
        obtain ⟨next, step, built⟩ := ok_of_bind built
        obtain ⟨column, _, inserted⟩ := ok_of_bind step
        rw [ih built, Schema.insert_name inserted]
  exact kept _ described

namespace Client

theorem schemaOfBody_name {relation : String} {body : ByteArray} {schema : Schema}
    (read : schemaOfBody relation body = .ok schema) : schema.name = relation := by
  unfold schemaOfBody at read
  cases described : SourceDescription.ofResponse body >>= fun description =>
      description.schema relation with
  | error error =>
      rw [described] at read
      cases read
  | ok found =>
      rw [described] at read
      cases read
      obtain ⟨description, _, told⟩ := ok_of_bind described
      exact SourceDescription.schema_name told

/-- The end of a description: its answer is read, and the schema is kept. -/
def conclude (relation : String) (answer : Except RequestError ByteArray) :
    StateM Client (Except RequestError Schema) := do
  let described := answer >>= schemaOfBody relation
  match described with
  | .ok schema =>
      modify fun client => { client with registry := client.registry.set schema }
  | .error _ => pure ()
  return described

/-- A description that is waited for is a request, and its end. -/
theorem describe_eq (context : Context) (relation : String) :
    describe context relation =
      (match Describe.text ⟨relation, false⟩ with
      | .error error => return .error (.statement error)
      | .ok text => do conclude relation (← request context statementEndpoint text)) :=
  rfl

theorem conclude_run (relation : String) (answer : Except RequestError ByteArray)
    (client : Client) :
    (conclude relation answer).run client =
      (answer >>= schemaOfBody relation,
        match answer >>= schemaOfBody relation with
        | .ok schema => { client with registry := client.registry.set schema }
        | .error _ => client) := by
  unfold conclude
  cases answer >>= schemaOfBody relation <;> rfl

/-! ### Callers -/

/-- A description that was asked for, whose answer was not taken yet. -/
structure Pending where
  relation : String
  request : Nat

/-- A client that several callers share, with the descriptions they wait for. -/
structure Desk where
  client : Client
  pending : List Pending

/-- What a caller may do, or what may happen meanwhile. -/
inductive Act where
  /-- A description is asked for, and nothing else is done until it has ended. -/
  | describe (context : Context) (relation : String)
  /-- A description is asked for. -/
  | ask (context : Context) (relation : String)
  /-- The caller of a description that was asked for looks for its answer. -/
  | look (place : Nat)
  /-- A description that was asked for is not waited for any longer. -/
  | giveUp (place : Nat)
  | happen (event : Event)
  | set (schema : Schema)
  | remove (relation : String)
  | clear

/-- What has come of an act. -/
inductive Outcome where
  | described (relation : String) (schema : Schema)
  | failed (relation : String) (error : RequestError)
  | set (schema : Schema)
  | removed (relation : String)
  | cleared

namespace Outcome

def ofResult (relation : String) : Except RequestError Schema → Outcome
  | .ok schema => .described relation schema
  | .error error => .failed relation error

/-- What an outcome means for the registered schemas. -/
def effect (registry : Registry) : Outcome → Registry
  | .described _ schema | .set schema => registry.set schema
  | .failed _ _ => registry
  | .removed relation => registry.remove relation
  | .cleared => registry.clear

/-- The schema that is kept under a name. -/
def keeps? (name : String) : Outcome → Option Schema
  | .described relation schema => if sameWord relation name then some schema else none
  | .set schema => if sameWord schema.name name then some schema else none
  | .failed _ _ | .removed _ | .cleared => none

/-- What was kept under a name before is replaced or taken away. -/
def touches (name : String) : Outcome → Bool
  | .described relation _ => sameWord relation name
  | .set schema => sameWord schema.name name
  | .removed relation => sameWord relation name
  | .cleared => true
  | .failed _ _ => false

/-- A schema that was described has the name that was asked for. -/
def IsNamed : Outcome → Prop
  | .described relation schema => schema.name = relation
  | _ => True

theorem effect_get? {outcome : Outcome} (named : outcome.IsNamed) (registry : Registry)
    (name : String) :
    (outcome.effect registry).get? name =
      if outcome.touches name then outcome.keeps? name else registry.get? name := by
  cases outcome with
  | described relation schema =>
      have named : schema.name = relation := named
      simp only [effect, touches, keeps?, Registry.get?_set, named]
      split <;> rfl
  | failed relation error => rfl
  | set schema =>
      simp only [effect, touches, keeps?, Registry.get?_set]
      split <;> rfl
  | removed relation => exact registry.get?_remove relation name
  | cleared => exact registry.get?_clear name

end Outcome

namespace Desk

def start (settings : Settings) (transport : Transport) : Desk :=
  ⟨.start settings transport, []⟩

/-- One act, with what has come of it. -/
def act (desk : Desk) : Act → List Outcome × Desk
  | .describe context relation =>
      let (result, client) := (Client.describe context relation).run desk.client
      ([.ofResult relation result], { desk with client := client })
  | .ask context relation =>
      match Describe.text ⟨relation, false⟩ with
      | .error error => ([.failed relation (.statement error)], desk)
      | .ok text =>
          let (dispatcher, index) :=
            desk.client.dispatcher.dispatch context (desk.client.post statementEndpoint text)
          ([], ⟨{ desk.client with dispatcher := dispatcher },
            desk.pending ++ [⟨relation, index⟩]⟩)
  | .look place =>
      match desk.pending[place]? with
      | none => ([], desk)
      | some asked =>
          match resultOf? asked.request desk.client.dispatcher with
          | none => ([], desk)
          | some answer =>
              let (result, client) := (conclude asked.relation answer).run desk.client
              ([.ofResult asked.relation result], ⟨client, desk.pending.eraseIdx place⟩)
  | .giveUp place =>
      match desk.pending[place]? with
      | none => ([], desk)
      | some asked =>
          ([], ⟨{ desk.client with dispatcher := desk.client.dispatcher.abort asked.request },
            desk.pending.eraseIdx place⟩)
  | .happen event =>
      ([], { desk with
        client := { desk.client with dispatcher := desk.client.dispatcher.apply event } })
  | .set schema => ([.set schema], { desk with client := ((register schema).run desk.client).2 })
  | .remove relation =>
      ([.removed relation], { desk with
        client := { desk.client with registry := desk.client.registry.remove relation } })
  | .clear =>
      ([.cleared], { desk with
        client := { desk.client with registry := desk.client.registry.clear } })

/-- Acts one after another, with all that has come of them. -/
def run (desk : Desk) : List Act → List Outcome × Desk
  | [] => ([], desk)
  | act :: rest =>
      let (outcomes, next) := desk.act act
      let (others, last) := next.run rest
      (outcomes ++ others, last)

end Desk

/-! ### What an act does to the registry -/

namespace Outcome

/-- The schemas that are registered after some outcomes. -/
def effects (registry : Registry) (outcomes : List Outcome) : Registry :=
  outcomes.foldl effect registry

end Outcome

theorem conclude_effect (relation : String) (answer : Except RequestError ByteArray)
    (client : Client) :
    ((conclude relation answer).run client).2.registry =
        (Outcome.ofResult relation ((conclude relation answer).run client).1).effect
          client.registry ∧
      (Outcome.ofResult relation ((conclude relation answer).run client).1).IsNamed := by
  rw [conclude_run]
  cases concluded : answer >>= schemaOfBody relation with
  | error error => exact ⟨rfl, trivial⟩
  | ok schema =>
      obtain ⟨body, _, read⟩ := ok_of_bind concluded
      exact ⟨rfl, schemaOfBody_name read⟩

theorem describe_effect (context : Context) (relation : String) (client : Client) :
    ((describe context relation).run client).2.registry =
        (Outcome.ofResult relation ((describe context relation).run client).1).effect
          client.registry ∧
      (Outcome.ofResult relation ((describe context relation).run client).1).IsNamed := by
  rw [describe_eq]
  cases Describe.text ⟨relation, false⟩ with
  | error error => exact ⟨rfl, trivial⟩
  | ok text => exact conclude_effect relation _ _

namespace Desk

theorem act_effect (desk : Desk) (act : Act) :
    (desk.act act).2.client.registry = Outcome.effects desk.client.registry (desk.act act).1 ∧
      ∀ outcome ∈ (desk.act act).1, outcome.IsNamed := by
  cases act with
  | describe context relation =>
      obtain ⟨registered, named⟩ := describe_effect context relation desk.client
      exact ⟨registered, fun outcome member => List.mem_singleton.1 member ▸ named⟩
  | ask context relation =>
      simp only [Desk.act]
      split
      · exact ⟨rfl, by simp [Outcome.IsNamed]⟩
      · exact ⟨rfl, nofun⟩
  | look place =>
      simp only [Desk.act]
      split
      · exact ⟨rfl, nofun⟩
      · next asked _ =>
          split
          · exact ⟨rfl, nofun⟩
          · next answer _ =>
              obtain ⟨registered, named⟩ := conclude_effect asked.relation answer desk.client
              exact ⟨registered, fun outcome member => List.mem_singleton.1 member ▸ named⟩
  | giveUp place =>
      simp only [Desk.act]
      split <;> exact ⟨rfl, nofun⟩
  | happen event => exact ⟨rfl, nofun⟩
  | set schema => exact ⟨rfl, by simp [Desk.act, Outcome.IsNamed]⟩
  | remove relation => exact ⟨rfl, by simp [Desk.act, Outcome.IsNamed]⟩
  | clear => exact ⟨rfl, by simp [Desk.act, Outcome.IsNamed]⟩

/-- The registry after a run is what its outcomes make of the one before. -/
theorem run_effect (desk : Desk) (acts : List Act) :
    (desk.run acts).2.client.registry = Outcome.effects desk.client.registry (desk.run acts).1 ∧
      ∀ outcome ∈ (desk.run acts).1, outcome.IsNamed := by
  induction acts generalizing desk with
  | nil => exact ⟨rfl, nofun⟩
  | cons act rest ih =>
      obtain ⟨registered, named⟩ := desk.act_effect act
      obtain ⟨later, alsoNamed⟩ := ih (desk.act act).2
      constructor
      · rw [run, later, registered]
        exact List.foldl_append.symm
      · intro outcome member
        exact (List.mem_append.1 member).elim (named outcome) (alsoNamed outcome)

end Desk

/-! ### What is registered last -/

/-- A schema was kept under a name, and nothing that came of later acts has replaced it or taken it
away. -/
def KeptLast (name : String) (outcomes : List Outcome) (schema : Schema) : Prop :=
  ∃ before kept after, outcomes = before ++ kept :: after ∧ kept.keeps? name = some schema ∧
    ∀ other ∈ after, other.touches name = false

theorem keptLast_cons {name : String} {first : Outcome} {rest : List Outcome} {schema : Schema} :
    KeptLast name (first :: rest) schema ↔
      KeptLast name rest schema ∨
        first.keeps? name = some schema ∧ ∀ other ∈ rest, other.touches name = false := by
  constructor
  · rintro ⟨before, kept, after, split, keeps, untouched⟩
    cases before with
    | nil =>
        obtain ⟨rfl, rfl⟩ := List.cons.inj split
        exact .inr ⟨keeps, untouched⟩
    | cons other before =>
        exact .inl ⟨before, kept, after, (List.cons.inj split).2, keeps, untouched⟩
  · rintro (⟨before, kept, after, split, keeps, untouched⟩ | ⟨keeps, untouched⟩)
    · exact ⟨first :: before, kept, after, by rw [split]; rfl, keeps, untouched⟩
    · exact ⟨[], first, rest, rfl, keeps, untouched⟩

namespace Outcome

/-- What is kept under a name replaces what was there. -/
theorem touches_of_keeps {outcome : Outcome} {name : String} {schema : Schema}
    (keeps : outcome.keeps? name = some schema) : outcome.touches name = true := by
  cases outcome with
  | described relation told => exact (Option.ite_none_right_eq_some.1 keeps).1
  | set told => exact (Option.ite_none_right_eq_some.1 keeps).1
  | failed _ _ => cases keeps
  | removed _ => cases keeps
  | cleared => cases keeps

theorem effects_get? {outcomes : List Outcome} (named : ∀ outcome ∈ outcomes, outcome.IsNamed)
    (registry : Registry) (name : String) (schema : Schema) :
    (effects registry outcomes).get? name = some schema ↔
      KeptLast name outcomes schema ∨
        registry.get? name = some schema ∧ ∀ other ∈ outcomes, other.touches name = false := by
  induction outcomes generalizing registry with
  | nil =>
      constructor
      · exact fun found => .inr ⟨found, nofun⟩
      · rintro (⟨before, kept, after, split, -⟩ | ⟨found, -⟩)
        · simp at split
        · exact found
  | cons first rest ih =>
      obtain ⟨firstNamed, restNamed⟩ := List.forall_mem_cons.1 named
      have later := ih restNamed (first.effect registry)
      rw [effect_get? firstNamed] at later
      have both : effects registry (first :: rest) = effects (first.effect registry) rest := rfl
      rw [both, later, keptLast_cons, List.forall_mem_cons, or_assoc]
      refine or_congr_right ?_
      cases touched : first.touches name with
      | true => simp
      | false =>
          have none : first.keeps? name ≠ some schema := fun keeps => by
            rw [touches_of_keeps keeps] at touched
            cases touched
          simp [none]

end Outcome

/-- The registry of a shared client holds the schema that was described or set last under a name, in
whatever case of letters, unless it was removed or cleared since. A description that fails changes
nothing, wherever it fails. -/
theorem registry_holds_last (settings : Settings) (transport : Transport) (acts : List Act) :
    (∀ name schema, ((Desk.start settings transport).run acts).2.client.registry.get? name =
        some schema ↔ KeptLast name ((Desk.start settings transport).run acts).1 schema) ∧
      ∀ desk : Desk, ∀ act relation error, (desk.act act).1 = [.failed relation error] →
        (desk.act act).2.client.registry = desk.client.registry := by
  constructor
  · intro name schema
    obtain ⟨registered, named⟩ := (Desk.start settings transport).run_effect acts
    have fresh : (Desk.start settings transport).client.registry.get? name = none := rfl
    rw [registered, Outcome.effects_get? named, fresh]
    simp
  · intro desk act relation error failed
    rw [(desk.act_effect act).1, failed]
    rfl

/-- An engine that describes one relation, and fails after that. -/
def tellingOnce : Transport :=
  let text :=
    "[\x7b\"sourceDescription\":\x7b\"name\":\"ORDERS\",\"type\":\"STREAM\"\x7d\x7d]"
  .ofScript [.answer ⟨200, 0, ⟨[(Response.utf8 text.toList).toByteArray], 0, .complete, none⟩⟩]
    (some (.answer ⟨500, 0, .empty⟩))

/-- A relation is described and another one set, while a second description is under way that comes
to nothing; one without a name is not even asked for. -/
def tellingActs : List Act :=
  [.describe .background "orders", .ask .background "Orders", .set (.empty "other"),
    .describe .background " ", .remove "OTHER"] ++
      List.replicate 10 (.happen (.step (.request 1))) ++ [.look 0]

theorem orders_kept :
    ∃ schema, ((Desk.start .default tellingOnce).run tellingActs).2.client.registry.get? "ORDERS" =
        some schema ∧ schema.name = "orders" ∧
      KeptLast "ORDERS" ((Desk.start .default tellingOnce).run tellingActs).1 schema ∧
      ((Desk.start .default tellingOnce).act (.describe .background " ")).2.client.registry =
        .empty := by
  obtain ⟨holds, fails⟩ := registry_holds_last .default tellingOnce tellingActs
  have found : (((Desk.start .default tellingOnce).run tellingActs).2.client.registry.get?
      "ORDERS").map Schema.name = some "orders" := by decide +kernel
  obtain ⟨schema, registered, named⟩ := Option.map_eq_some_iff.1 found
  exact ⟨schema, registered, named, (holds _ _).1 registered,
    fails _ (.describe .background " ") " " _ rfl⟩

end Client

end StreamQuery
