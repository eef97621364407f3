import Messaging.Proofs.Cql.Repository

/-!
Requests on one connection. A script of requests is carried out in order, up to the first that
fails; the database receives what comes before it and nothing after it, and what the script does
to the database follows from what each request does to it.
-/
namespace Messaging.Cql

namespace Request

/-- Why the client does not even send a request: a name that no keyspace can have. -/
def unsendable? : Request → Option BadKeyspaceName
  | .use name =>
    match checkKeyspaceName name with
    | .error reason => some reason
    | .ok () => none
  | _ => none

def selects (current : Option String) : Request → Option String
  | .use name => some name
  | _ => current

/-- The request leaves every keyspace and every table as it is. -/
def changesNothing : Request → Bool
  | .createKeyspace _ | .createTable | .insert _ => false
  | _ => true

def writesNothing : Request → Bool
  | .insert _ => false
  | _ => true

end Request

/-- An open session: the server, and the keyspace that is current. -/
structure Connection where
  server : Server
  current : Option String

namespace Connection

/-- Makes one request. It is not carried out if it is not sent or if it fails. -/
def request (c : Connection) (q : Request) : Except UseFailure Unit × Connection :=
  match q.unsendable? with
  | some reason => (.error (.badName reason), c)
  | none =>
    match c.server.receive c.current q with
    | (.error cause, server) => (.error (.failed cause), { c with server })
    | (.ok _, server) => (.ok (), ⟨server, q.selects c.current⟩)

/-- Makes requests in order, until one is not carried out; that one is told, and why. -/
def script (c : Connection) : List Request → Except (Request × UseFailure) Unit × Connection
  | [] => (.ok (), c)
  | q :: qs =>
    match c.request q with
    | (.error reason, c) => (.error (q, reason), c)
    | (.ok (), c) => c.script qs

variable {c d : Connection} {q : Request} {qs : List Request} {reason : UseFailure}

@[simp] theorem script_nil (c : Connection) : c.script [] = (.ok (), c) := rfl

theorem script_cons_of_ok (h : c.request q = (.ok (), d)) (qs : List Request) :
    c.script (q :: qs) = d.script qs := by
  rw [script, h]

theorem script_cons_of_error (h : c.request q = (.error reason, d)) (qs : List Request) :
    c.script (q :: qs) = (.error (q, reason), d) := by
  rw [script, h]

theorem request_cases (c : Connection) (q : Request) :
    (∃ d, c.request q = (.ok (), d)) ∨ ∃ reason d, c.request q = (.error reason, d) := by
  rcases h : c.request q with ⟨_ | _, d⟩
  · exact .inr ⟨_, d, rfl⟩
  · exact .inl ⟨d, rfl⟩

theorem script_append_of_ok (h : c.script qs = (.ok (), d)) (more : List Request) :
    c.script (qs ++ more) = d.script more := by
  induction qs generalizing c with
  | nil =>
    obtain ⟨-, rfl⟩ := Prod.mk.inj h
    rfl
  | cons q qs ih =>
    rcases c.request_cases q with ⟨e, he⟩ | ⟨reason, e, he⟩
    · rw [script_cons_of_ok he] at h
      rw [List.cons_append, script_cons_of_ok he, ih h]
    · simp [script_cons_of_error he] at h

theorem script_append_of_error {more : List Request} (h : c.script qs = (.error (q, reason), d)) :
    c.script (qs ++ more) = (.error (q, reason), d) := by
  induction qs generalizing c with
  | nil => simp at h
  | cons p qs ih =>
    rcases c.request_cases p with ⟨e, he⟩ | ⟨reason', e, he⟩
    · rw [script_cons_of_ok he] at h
      rw [List.cons_append, script_cons_of_ok he, ih h]
    · rw [script_cons_of_error he] at h
      rw [List.cons_append, script_cons_of_error he, h]

theorem script_append_eq_ok_iff {more : List Request} :
    c.script (qs ++ more) = (.ok (), d)
      ↔ ∃ e, c.script qs = (.ok (), e) ∧ e.script more = (.ok (), d) := by
  rcases hscript : c.script qs with ⟨⟨q, reason⟩ | ⟨⟩, e⟩
  · simp [script_append_of_error hscript]
  · rw [script_append_of_ok hscript]
    simp

/-- A script stops at the first request that is not carried out. -/
theorem script_eq_error_iff :
    c.script qs = (.error (q, reason), d) ↔
      ∃ earlier later before, qs = earlier ++ q :: later ∧ c.script earlier = (.ok (), before)
        ∧ before.request q = (.error reason, d) := by
  constructor
  · intro h
    induction qs generalizing c with
    | nil => simp at h
    | cons p qs ih =>
      rcases c.request_cases p with ⟨e, he⟩ | ⟨reason', e, he⟩
      · rw [script_cons_of_ok he] at h
        obtain ⟨earlier, later, before, rfl, hearlier, hq⟩ := ih h
        exact ⟨p :: earlier, later, before, rfl, by rw [script_cons_of_ok he, hearlier], hq⟩
      · rw [script_cons_of_error he] at h
        simp only [Prod.mk.injEq, Except.error.injEq] at h
        obtain ⟨⟨rfl, rfl⟩, rfl⟩ := h
        exact ⟨[], qs, c, rfl, rfl, he⟩
  · rintro ⟨earlier, later, before, rfl, hearlier, hq⟩
    rw [script_append_of_ok hearlier, script_cons_of_error hq]

end Connection

namespace Server

theorem received_receive (s : Server) (current : Option String) (q : Request) :
    (s.receive current q).2.received = s.received ++ [q] := by
  rw [receive_eq]

theorem perform_changesNothing {q : Request} (h : q.changesNothing = true) (s : Server)
    (current : Option String) : (s.perform current q).2 = s := by
  cases q with
  | login user password => rfl
  | use name => exact s.perform_use_snd current name
  | prepareInsert => rw [perform_prepare rfl]; split <;> rfl
  | prepareSelect => rw [perform_prepare rfl]; split <;> rfl
  | select receiverId messageId => exact s.perform_select_snd current receiverId messageId
  | _ => simp [Request.changesNothing] at h

theorem keyspaces_receive {q : Request} (h : q.changesNothing = true) (s : Server)
    (current : Option String) : (s.receive current q).2.keyspaces = s.keyspaces := by
  cases hfails : s.fails q with
  | some cause => rw [receive_of_fails hfails]; rfl
  | none => rw [receive_of_carried hfails, perform_changesNothing h]; rfl

def rows (s : Server) (name : String) : Table := (s.table? (some name)).getD []

theorem table?_adding (s : Server) (added name : String) :
    (s.adding added).table? (some name) = s.table? (some name) := by
  simp only [table?, keyspace?, adding, Option.bind_some, List.find?_append]
  cases s.keyspaces.find? fun k => decide (k.1 = name) with
  | some k => rfl
  | none => by_cases hname : added = name <;> simp [hname]

theorem rows_perform {q : Request} (h : q.writesNothing = true) (s : Server)
    (current : Option String) (name : String) :
    (s.perform current q).2.rows name = s.rows name := by
  cases q with
  | createKeyspace created =>
    cases hcreated : created? created with
    | none =>
      obtain ⟨failure, hperform⟩ := perform_createKeyspace_of_none hcreated s current
      rw [hperform]
    | some k =>
      rw [perform_createKeyspace_of_some hcreated]
      dsimp only
      split
      · rfl
      · rw [rows, table?_adding, rows]
  | createTable =>
    rw [perform_createTable]
    cases current with
    | none => rfl
    | some within =>
      rcases hkeyspace : s.keyspace? within with _ | _ | table <;> simp only [hkeyspace]
      · -- where there was no table, the new one has no rows either
        simp only [rows, table?, Option.bind_some, keyspace?_setTable, hkeyspace]
        by_cases hname : name = within
        · simp [hname, hkeyspace]
        · simp [hname]
  | insert cells => simp [Request.writesNothing] at h
  | _ => rw [perform_changesNothing rfl]

theorem rows_receive {q : Request} (h : q.writesNothing = true) (s : Server)
    (current : Option String) (name : String) :
    (s.receive current q).2.rows name = s.rows name := by
  cases hfails : s.fails q with
  | some cause => rw [receive_of_fails hfails]; rfl
  | none => rw [receive_of_carried hfails, rows_perform h]; rfl

theorem table?_of_prepared {q : Request} (h : q.isPrepare = true) {s server : Server}
    {current : Option String} {answer : Response}
    (hreceive : s.receive current q = (.ok answer, server)) :
    (server.table? current).isSome = true := by
  cases hfails : s.fails q with
  | some cause => simp [receive_of_fails hfails] at hreceive
  | none =>
    rw [receive_of_carried hfails, perform_prepare h] at hreceive
    cases htable : (s.noting q).table? current with
    | none => simp [htable] at hreceive
    | some table =>
      simp only [htable, Prod.mk.injEq] at hreceive
      rw [← hreceive.2, htable]
      rfl

theorem receive_use (s : Server) (current : Option String) (name : String) :
    s.receive current (.use name) = s.receive none (.use name) := by
  cases hfails : s.fails (.use name) with
  | some cause => rw [receive_of_fails hfails, receive_of_fails hfails]
  | none =>
    rw [receive_of_carried hfails, receive_of_carried hfails, perform_use_current]

end Server

namespace Connection

variable {c d : Connection} {q : Request} {qs : List Request} {reason : UseFailure}

theorem request_of_received {server : Server} {answer : Server.Response}
    (hsend : q.unsendable? = none) (h : c.server.receive c.current q = (.ok answer, server)) :
    c.request q = (.ok (), ⟨server, q.selects c.current⟩) := by
  simp only [request, hsend, h]

theorem request_of_failed {server : Server} {cause : Failure}
    (hsend : q.unsendable? = none) (h : c.server.receive c.current q = (.error cause, server)) :
    c.request q = (.error (.failed cause), { c with server }) := by
  simp only [request, hsend, h]

theorem current_request (h : c.request q = (.ok (), d)) : d.current = q.selects c.current := by
  rw [request] at h
  split at h
  · simp at h
  · split at h
    · simp at h
    · obtain ⟨-, rfl⟩ := Prod.mk.inj h
      rfl

theorem current_script (h : c.script qs = (.ok (), d)) :
    d.current = qs.foldl Request.selects c.current := by
  induction qs generalizing c with
  | nil =>
    obtain ⟨-, rfl⟩ := Prod.mk.inj h
    rfl
  | cons q qs ih =>
    rcases c.request_cases q with ⟨e, he⟩ | ⟨reason, e, he⟩
    · rw [script_cons_of_ok he] at h
      rw [ih h, current_request he, List.foldl_cons]
    · simp [script_cons_of_error he] at h

theorem received_request (c : Connection) (q : Request) :
    (c.request q).2.server.received
      = c.server.received ++ if q.unsendable?.isSome then [] else [q] := by
  cases hsend : q.unsendable? with
  | some reason => simp [request, hsend]
  | none =>
    have hreceived := c.server.received_receive c.current q
    rcases hreceive : c.server.receive c.current q with ⟨_ | _, server⟩
    · rw [request_of_failed hsend hreceive]
      simpa [hreceive] using hreceived
    · rw [request_of_received hsend hreceive]
      simpa [hreceive] using hreceived

theorem unsendable?_of_request_ok (h : c.request q = (.ok (), d)) : q.unsendable? = none := by
  cases hsend : q.unsendable? with
  | none => rfl
  | some reason => simp [request, hsend] at h

theorem received_script_of_ok (h : c.script qs = (.ok (), d)) :
    d.server.received = c.server.received ++ qs := by
  induction qs generalizing c with
  | nil =>
    obtain ⟨-, rfl⟩ := Prod.mk.inj h
    simp
  | cons q qs ih =>
    rcases c.request_cases q with ⟨e, he⟩ | ⟨reason, e, he⟩
    · have hreceived := c.received_request q
      rw [he, unsendable?_of_request_ok he] at hreceived
      rw [script_cons_of_ok he] at h
      rw [ih h, hreceived]
      simp
    · simp [script_cons_of_error he] at h

theorem received_script (c : Connection) (qs : List Request) :
    ∃ issued, issued <+: qs ∧ (c.script qs).2.server.received = c.server.received ++ issued := by
  rcases hscript : c.script qs with ⟨⟨q, reason⟩ | ⟨⟩, d⟩
  · obtain ⟨earlier, later, before, rfl, hearlier, hq⟩ := script_eq_error_iff.mp hscript
    have hreceived := before.received_request q
    rw [hq, received_script_of_ok hearlier, List.append_assoc] at hreceived
    refine ⟨_, ?_, hreceived⟩
    rw [List.prefix_append_right_inj]
    split
    · exact List.nil_prefix
    · exact List.cons_prefix_cons.mpr ⟨rfl, List.nil_prefix⟩
  · exact ⟨qs, List.prefix_refl qs, received_script_of_ok hscript⟩

theorem view_request {α : Type} (view : Server → α)
    (h : ∀ (s : Server) (current : Option String), view (s.receive current q).2 = view s)
    (c : Connection) : view (c.request q).2.server = view c.server := by
  have hview := h c.server c.current
  rw [request]
  split
  · rfl
  · split <;> simp_all

theorem view_script {α : Type} (view : Server → α)
    (h : ∀ q ∈ qs, ∀ (s : Server) (current : Option String), view (s.receive current q).2 = view s)
    (c : Connection) : view (c.script qs).2.server = view c.server := by
  induction qs generalizing c with
  | nil => rfl
  | cons q qs ih =>
    rw [List.forall_mem_cons] at h
    have hq := view_request view h.1 c
    rcases c.request_cases q with ⟨d, hd⟩ | ⟨reason, d, hd⟩
    · rw [script_cons_of_ok hd, ih h.2, ← hq, hd]
    · rw [script_cons_of_error hd, ← hq, hd]

theorem table?_of_request_ok (hprepare : q.isPrepare = true) (h : c.request q = (.ok (), d)) :
    (d.server.table? d.current).isSome = true := by
  rw [current_request h]
  have hselects : q.selects c.current = c.current := by
    cases q <;> simp [Request.isPrepare] at hprepare <;> rfl
  rw [hselects]
  rw [request, unsendable?_of_request_ok h] at h
  rcases hreceive : c.server.receive c.current q with ⟨_ | answer, server⟩
  · simp [hreceive] at h
  · simp only [hreceive, Prod.mk.injEq, true_and] at h
    rw [← h]
    exact Server.table?_of_prepared hprepare hreceive

end Connection

end Messaging.Cql
