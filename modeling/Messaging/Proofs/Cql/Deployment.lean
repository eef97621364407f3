import Messaging.Proofs.Cql.Startup

/-!
One database and its clients. Clients connect, make the schema ready one request after the other,
and save and look up once their stores are ready, in turns that come in any order. A client that
starts up with nothing in between does what starting up does.
-/
namespace Messaging.Cql

/-- A client of the database, while it starts up and once its store is ready. -/
structure Client where
  settings : DatabaseSettings
  /-- The keyspace that is current in its session. -/
  current : Option String
  /-- The requests that it has still to make; none if it has given up. -/
  todo : Option (List Request)

namespace Client

def left {ε α : Type} (qs : List Request) : Except ε α → Option (List Request)
  | .ok _ => some qs
  | .error _ => none

def opened (settings : DatabaseSettings) (s : Server) : Client :=
  ⟨settings, none, left (stages settings) (connect settings s).result⟩

def next (c : Client) (s : Server) : Client × Server :=
  match c.todo with
  | some (q :: qs) =>
    let (result, d) := Connection.request ⟨s, c.current⟩ q
    ({ c with current := d.current, todo := left qs result }, d.server)
  | _ => (c, s)

def store? (c : Client) (s : Server) : Option Repository :=
  if c.todo = some [] then some ⟨s, c.settings.keyspace⟩ else none

end Client

structure Deployment where
  server : Server
  clients : ℕ → Option Client

/-- What one of the clients does next. -/
inductive Turn
  | connect (i : ℕ) (settings : DatabaseSettings)
  /-- It makes the next of the requests by which it starts up. -/
  | advance (i : ℕ)
  | save (i : ℕ) (m : Message)
  | lookup (i : ℕ) (messageId receiverId : Uuid)

/-- To start up on this keyspace, with its schema made ready unless the name is a plain one. -/
structure StartsOn (settings : DatabaseSettings) (keyspace : String) : Prop where
  keyspace_eq : settings.keyspace = keyspace
  prepares : settings.init = true ∨ Keyspace.read? keyspace = some keyspace

/-- Whoever connects does so to start up on this keyspace. -/
def Turn.On (keyspace : String) : Turn → Prop
  | .connect _ settings => StartsOn settings keyspace
  | _ => True

def Turn.isSave : Turn → Bool
  | .save _ _ => true
  | _ => false

namespace Deployment

def new (s : Server) : Deployment := ⟨s, fun _ => none⟩

def store? (d : Deployment) (i : ℕ) : Option Repository :=
  (d.clients i).bind fun c => c.store? d.server

theorem server_of_store? {d : Deployment} {i : ℕ} {r : Repository} (h : d.store? i = some r) :
    r.server = d.server := by
  obtain ⟨c, -, hstore⟩ := Option.bind_eq_some_iff.mp h
  rw [Client.store?, Option.ite_none_right_eq_some] at hstore
  rw [← Option.some.inj hstore.2]

def turn (d : Deployment) : Turn → Deployment
  | .connect i settings =>
    ⟨(connect settings d.server).server,
      Function.update d.clients i (some (.opened settings d.server))⟩
  | .advance i =>
    match d.clients i with
    | some c => ⟨(c.next d.server).2, Function.update d.clients i (some (c.next d.server).1)⟩
    | none => d
  | .save i m =>
    match d.store? i with
    | some r => { d with server := (r.save m).state.server }
    | none => d
  | .lookup i messageId receiverId =>
    match d.store? i with
    | some r => { d with server := (r.lookup messageId receiverId).state.server }
    | none => d

def run (d : Deployment) (turns : List Turn) : Deployment := turns.foldl turn d

def saved? (d : Deployment) : Turn → Option Message
  | .save i m => (d.store? i).map fun _ => m
  | _ => none

def saves (d : Deployment) : List Turn → List Message
  | [] => []
  | t :: turns => (d.saved? t).toList ++ saves (d.turn t) turns

@[simp] theorem run_nil (d : Deployment) : d.run [] = d := rfl

@[simp] theorem run_cons (d : Deployment) (t : Turn) (turns : List Turn) :
    d.run (t :: turns) = (d.turn t).run turns := rfl

theorem saves_append (d : Deployment) (turns more : List Turn) :
    d.saves (turns ++ more) = d.saves turns ++ (d.run turns).saves more := by
  induction turns generalizing d with
  | nil => rfl
  | cons t turns ih => rw [List.cons_append, saves, saves, ih, run_cons, List.append_assoc]

theorem run_append (d : Deployment) (turns more : List Turn) :
    d.run (turns ++ more) = (d.run turns).run more := List.foldl_append

theorem saved?_of_not_save {t : Turn} (h : t.isSave = false) (d : Deployment) :
    d.saved? t = none := by
  cases t <;> first | rfl | simp [Turn.isSave] at h

theorem saved?_save {d : Deployment} {i : ℕ} (h : (d.store? i).isSome = true) (m : Message) :
    d.saved? (.save i m) = some m := by
  obtain ⟨r, hr⟩ := Option.isSome_iff_exists.mp h
  rw [saved?, hr, Option.map_some]

theorem saves_of_not_save {turns : List Turn} (h : ∀ t ∈ turns, t.isSave = false)
    (d : Deployment) : d.saves turns = [] := by
  induction turns generalizing d with
  | nil => rfl
  | cons t turns ih =>
    rw [List.forall_mem_cons] at h
    rw [saves, saved?_of_not_save h.1, ih h.2]
    rfl

theorem isSome_store?_iff {d : Deployment} {i : ℕ} :
    (d.store? i).isSome = true ↔ ∃ c, d.clients i = some c ∧ c.todo = some [] := by
  rw [store?]
  cases d.clients i with
  | none => simp
  | some c => by_cases htodo : c.todo = some [] <;> simp [Client.store?, htodo]

/-- A store that is ready stays ready until its client connects anew. -/
theorem isSome_store?_turn {d : Deployment} {i : ℕ} (h : (d.store? i).isSome = true) {t : Turn}
    (ht : ∀ settings, t ≠ .connect i settings) : ((d.turn t).store? i).isSome = true := by
  rw [isSome_store?_iff] at h ⊢
  obtain ⟨c, hc, htodo⟩ := h
  cases t with
  | connect j settings =>
    have hne : i ≠ j := fun hij => ht settings (hij ▸ rfl)
    exact ⟨c, by simp only [turn, Function.update_of_ne hne, hc], htodo⟩
  | advance j =>
    cases hj : d.clients j with
    | none => exact ⟨c, by simp only [turn, hj, hc], htodo⟩
    | some c' =>
      rcases eq_or_ne i j with rfl | hij
      · obtain rfl : c = c' := Option.some.inj (hc.symm.trans hj)
        exact ⟨c, by simp only [turn, hj, Function.update_self, Client.next, htodo], htodo⟩
      · exact ⟨c, by simp only [turn, hj, Function.update_of_ne hij, hc], htodo⟩
  | save j m => cases hj : d.store? j <;> exact ⟨c, by simp only [turn, hj, hc], htodo⟩
  | lookup j messageId receiverId =>
    cases hj : d.store? j <;> exact ⟨c, by simp only [turn, hj, hc], htodo⟩

theorem isSome_store?_run {d : Deployment} {i : ℕ} (h : (d.store? i).isSome = true)
    {turns : List Turn} (hturns : ∀ t ∈ turns, ∀ settings, t ≠ .connect i settings) :
    ((d.run turns).store? i).isSome = true := by
  induction turns generalizing d with
  | nil => exact h
  | cons t turns ih =>
    rw [List.forall_mem_cons] at hturns
    exact ih (isSome_store?_turn h hturns.1) hturns.2

theorem turn_advance_of_idle {d : Deployment} {i : ℕ} {c : Client} (hc : d.clients i = some c)
    (htodo : c.todo = none) : d.turn (.advance i) = d := by
  have hnext : c.next d.server = (c, d.server) := by simp only [Client.next, htodo]
  simp only [turn, hc, hnext]
  rw [← hc, Function.update_eq_self]

theorem run_advance_of_idle {d : Deployment} {i : ℕ} {c : Client} (hc : d.clients i = some c)
    (htodo : c.todo = none) (n : ℕ) : d.run (List.replicate n (.advance i)) = d := by
  induction n with
  | zero => rfl
  | succ n ih => rw [List.replicate_succ, run_cons, turn_advance_of_idle hc htodo, ih]

/-- A client that makes its requests with nothing in between makes them as a script. -/
theorem run_advance {d : Deployment} {i : ℕ} {c : Client} {qs : List Request}
    (hc : d.clients i = some c) (htodo : c.todo = some qs) :
    d.run (List.replicate qs.length (.advance i))
      = ⟨(Connection.script ⟨d.server, c.current⟩ qs).2.server,
          Function.update d.clients i (some { c with
            current := (Connection.script ⟨d.server, c.current⟩ qs).2.current
            todo := Client.left [] (Connection.script ⟨d.server, c.current⟩ qs).1 })⟩ := by
  induction qs generalizing d c with
  | nil =>
    change d = ⟨d.server, Function.update d.clients i (some { c with todo := some [] })⟩
    rw [← htodo]
    change d = ⟨d.server, Function.update d.clients i (some c)⟩
    rw [← hc, Function.update_eq_self]
  | cons q qs ih =>
    rw [List.length_cons, List.replicate_succ, run_cons]
    rcases hrequest : Connection.request ⟨d.server, c.current⟩ q with ⟨reason | ⟨⟩, e⟩
    · have hnext : c.next d.server = ({ c with current := e.current, todo := none }, e.server) := by
        simp only [Client.next, htodo, hrequest, Client.left]
      rw [Connection.script_cons_of_error hrequest, run_advance_of_idle (c := (c.next d.server).1)]
      · simp only [turn, hc, hnext, Client.left]
      · simp only [turn, hc, Function.update_self]
      · rw [hnext]
    · have hnext : c.next d.server
          = ({ c with current := e.current, todo := some qs }, e.server) := by
        simp only [Client.next, htodo, hrequest, Client.left]
      rw [Connection.script_cons_of_ok hrequest, ih (c := (c.next d.server).1)]
      · simp only [turn, hc, hnext, Function.update_idem]
      · simp only [turn, hc, Function.update_self]
      · rw [hnext]

def startingTurns (i : ℕ) (settings : DatabaseSettings) : List Turn :=
  .connect i settings :: List.replicate (stages settings).length (.advance i)

/-- A client that starts up with nothing in between does to the database what starting up does, and
has the store that starting up gives. -/
theorem run_startingTurns (d : Deployment) (i : ℕ) (settings : DatabaseSettings) :
    (d.run (startingTurns i settings)).server = (start settings d.server).server
      ∧ (d.run (startingTurns i settings)).store? i
        = (initStore settings (.listening d.server)).1.toOption := by
  have hclient : (d.turn (.connect i settings)).clients i = some (.opened settings d.server) := by
    simp only [turn, Function.update_self]
  rw [startingTurns, run_cons]
  cases hconnect : (connect settings d.server).result with
  | error e =>
    have htodo : (Client.opened settings d.server).todo = none := by
      simp only [Client.opened, hconnect, Client.left]
    obtain ⟨hresult, hserver⟩ := start_of_connect_error hconnect
    rw [run_advance_of_idle hclient htodo, initStore_eq_error_iff.mpr hresult, store?, hclient]
    exact ⟨hserver.symm, by simp [Client.store?, htodo, Except.toOption]⟩
  | ok _ =>
    have htodo : (Client.opened settings d.server).todo = some (stages settings) := by
      simp only [Client.opened, hconnect, Client.left]
    have hfollows := start_follows hconnect
    rw [run_advance hclient htodo]
    refine ⟨hfollows.server.symm, ?_⟩
    simp only [store?, Function.update_self, Option.bind_some, Client.store?]
    change (if Client.left [] (Connection.script ⟨(connect settings d.server).server, none⟩
      (stages settings)).1 = some [] then _ else _) = _
    rcases hscript : (Connection.script ⟨(connect settings d.server).server, none⟩
      (stages settings)).1 with ⟨q, reason⟩ | ⟨⟩
    · obtain ⟨e, hresult, -⟩ := hfollows.error q reason hscript
      rw [initStore_eq_error_iff.mpr hresult]
      rfl
    · have hready := initStore_eq_ok_iff.mpr ⟨hfollows.ok hscript, rfl⟩
      rw [hready, hfollows.server]
      rfl

theorem isSome_store?_startingTurns {d : Deployment} {settings : DatabaseSettings}
    (h : (start settings d.server).result = .ok ()) (i : ℕ) :
    ((d.run (startingTurns i settings)).store? i).isSome = true := by
  rw [(d.run_startingTurns i settings).2, initStore_eq_ok_iff.mpr ⟨h, rfl⟩]
  rfl

end Deployment

end Messaging.Cql
