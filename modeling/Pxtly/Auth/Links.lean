/-
This file gives when a user who is linked to a subject stays linked to it.
-/

import Pxtly.Auth.Identity
import Pxtly.Foundation.Histories

namespace Pxtly.Auth

open Foundation Foundation.Database Program
open Assets (Uuid)

variable {columns : UserColumns}

section Rows

variable {tables : Tables columns} {id : Uuid} {keycloakSub : String} {write : Write}

def LinkedTo (tables : Tables columns) (id : Uuid) (keycloakSub : String) : Prop :=
  ∃ row ∈ tables.users, row.id = id ∧ row.keycloakSub = some keycloakSub

theorem LinkedTo.subject_eq {other : String} (first : LinkedTo tables id keycloakSub)
    (second : LinkedTo tables id other) : keycloakSub = other := by
  obtain ⟨row, member, rfl, linked⟩ := first
  obtain ⟨copy, present, same, link⟩ := second
  obtain rfl := List.inj_on_of_nodup_map tables.legal.primaryKey present member same
  exact Option.some.inj (linked.symm.trans link)

/-- The update leaves a link to the subject as it is. -/
def Assignment.Keeps : Assignment → String → Prop
  | .anonymise, _ => False
  | .signIn assigned _ _, keycloakSub => ∀ other ∈ assigned, other = keycloakSub

def Write.Keeps : Write → Uuid → String → Prop
  | .updateUser other assignment, id, keycloakSub => other = id → assignment.Keeps keycloakSub
  | _, _, _ => True

theorem Assignment.Keeps.apply {assignment : Assignment} (keeps : assignment.Keeps keycloakSub) {row : User}
    (linked : row.keycloakSub = some keycloakSub) : (assignment.apply row).keycloakSub = some keycloakSub := by
  cases assignment with
  | anonymise => exact keeps.elim
  | signIn assigned role lastLogin =>
      cases assigned with
      | none => exact linked
      | some other => exact congrArg some (keeps other rfl)

theorem LinkedTo.apply (linked : LinkedTo tables id keycloakSub) (keeps : write.Keeps id keycloakSub) :
    LinkedTo (tables.apply write) id keycloakSub := by
  obtain ⟨row, member, rfl, link⟩ := linked
  cases write with
  | updateUser other assignment =>
      rw [Tables.apply]
      split
      · refine ⟨assign other assignment row, List.mem_map_of_mem member, assign_id _ _ _, ?_⟩
        unfold assign
        split
        · next same => exact (keeps same.symm).apply link
        · exact link
      · exact ⟨row, member, rfl, link⟩
  | deleteDocuments userID => exact ⟨row, member, rfl, link⟩
  | revokeCredentials userID revokedAt reason => exact ⟨row, member, rfl, link⟩

theorem LinkedTo.view {pending : List Write} (linked : LinkedTo tables id keycloakSub)
    (keeps : ∀ write ∈ pending, write.Keeps id keycloakSub) :
    LinkedTo (@view (database columns) tables pending) id keycloakSub := by
  induction pending generalizing tables with
  | nil => exact linked
  | cons write rest inductionHypothesis =>
      exact inductionHypothesis (linked.apply (keeps write List.mem_cons_self))
        fun later member => keeps later (List.mem_cons_of_mem _ member)

/-- The subject of an updated row was there before, or the update has assigned it. -/
theorem subject_of_assign {assignment : Assignment} {row : User}
    (linked : (assign id assignment row).keycloakSub = some keycloakSub) :
    row.keycloakSub = some keycloakSub ∨ (row.id = id ∧ assignment.subject = some keycloakSub) := by
  unfold assign at linked
  split at linked
  · next own =>
      cases assignment with
      | anonymise => cases linked
      | signIn assigned role lastLogin =>
          cases assigned with
          | none => exact .inl linked
          | some subject => exact .inr ⟨own, linked⟩
  · exact .inl linked

/-- A write makes a new link only where it assigns the subject. -/
theorem LinkedTo.of_apply (linked : LinkedTo (tables.apply write) id keycloakSub) :
    LinkedTo tables id keycloakSub ∨
      ∃ assignment, write = .updateUser id assignment ∧ assignment.subject = some keycloakSub := by
  cases write with
  | updateUser other assignment =>
      rw [Tables.apply] at linked
      split at linked
      · obtain ⟨changed, present, rfl, link⟩ := linked
        obtain ⟨row, member, rfl⟩ := List.mem_map.mp present
        rw [assign_id]
        rcases subject_of_assign link with before | ⟨rfl, assigned⟩
        · exact .inl ⟨row, member, rfl, before⟩
        · exact .inr ⟨assignment, rfl, assigned⟩
      · exact .inl linked
  | deleteDocuments userID => exact .inl linked
  | revokeCredentials userID revokedAt reason => exact .inl linked

end Rows

section Readiness

variable {tables drifted : Tables columns} {id : Uuid} {assigned role : Option String} {lastLogin : Zkp.Instant}
  {write : Write}

/-- Users stay, and only logins change their links; other functions change everything else. -/
structure Drifts (tables drifted : Tables columns) : Prop where
  known : ∀ row ∈ tables.users, row.id ∈ drifted.users.map User.id
  links : ∀ id keycloakSub, LinkedTo drifted id keycloakSub ↔ LinkedTo tables id keycloakSub

/-- The columns admit what the login assigns, and no other row is linked to its subject. -/
structure Ready (tables : Tables columns) (id : Uuid) (assignment : Assignment) : Prop where
  known : id ∈ tables.users.map User.id
  admitted : ∀ row, columns.admits row → columns.admits (assignment.apply row)
  free : ∀ keycloakSub ∈ assignment.subject, ∀ other, LinkedTo tables other keycloakSub → other = id

theorem admits_signIn {row other : User}
    (admitted : columns.admits ((Assignment.signIn assigned role lastLogin).apply other))
    (admits : columns.admits row) : columns.admits ((Assignment.signIn assigned role lastLogin).apply row) := by
  cases assigned <;> cases role <;> simp_all [UserColumns.admits, Assignment.apply]

theorem ready_of_admits (admits : tables.admits (.updateUser id (.signIn assigned role lastLogin)) = true) :
    Ready tables id (.signIn assigned role lastLogin) := by
  obtain ⟨known, decided⟩ := Bool.and_eq_true_iff.mp admits
  have legal := of_decide_eq_true decided
  rw [List.contains_iff_mem] at known
  obtain ⟨own, member, rfl⟩ := List.mem_map.mp known
  have changed := List.mem_map_of_mem (f := assign own.id (.signIn assigned role lastLogin)) member
  constructor
  · exact known
  · intro row rowAdmits
    have ownAdmits := legal.admitted _ changed
    rw [assign, if_pos rfl] at ownAdmits
    exact admits_signIn ownAdmits rowAdmits
  · rintro keycloakSub subject other ⟨row, present, rfl, link⟩
    by_contra different
    have kept := List.mem_map_of_mem (f := assign own.id (.signIn assigned role lastLogin)) present
    have linked : (assign own.id (.signIn assigned role lastLogin) own).keycloakSub = some keycloakSub := by
      rw [assign, if_pos rfl, Assignment.apply, show assigned = some keycloakSub from subject]
      rfl
    have stays : (assign own.id (.signIn assigned role lastLogin) row).keycloakSub = some keycloakSub := by
      rw [assign, if_neg different]
      exact link
    have same := congrArg User.id (legal.eq_of_subject kept changed stays linked)
    simp only [assign_id] at same
    exact different same

/-- An update that is ready is legal. -/
theorem Ready.legal (ready : Ready tables id (.signIn assigned role lastLogin)) :
    Legal columns (tables.users.map (assign id (.signIn assigned role lastLogin))) := by
  have ids : (tables.users.map (assign id (.signIn assigned role lastLogin))).map User.id = tables.users.map User.id := by
    simp [Function.comp_def]
  have emails (row : User) : (assign id (.signIn assigned role lastLogin) row).email = row.email := by
    unfold assign
    split <;> rfl
  constructor
  · intro row present
    obtain ⟨former, member, rfl⟩ := List.mem_map.mp present
    unfold assign
    split
    · exact ready.admitted former (tables.legal.admitted former member)
    · exact tables.legal.admitted former member
  · rw [ids]
    exact tables.legal.primaryKey
  · simpa [Function.comp_def, emails] using tables.legal.emailKey
  · refine subjectKey_of_primaryKey (ids ▸ tables.legal.primaryKey) ?_
    intro first firstPresent second secondPresent keycloakSub firstLinked secondLinked
    obtain ⟨one, oneMember, rfl⟩ := List.mem_map.mp firstPresent
    obtain ⟨two, twoMember, rfl⟩ := List.mem_map.mp secondPresent
    rw [assign_id, assign_id]
    rcases subject_of_assign firstLinked with oneLinked | ⟨oneOwn, subject⟩
    · rcases subject_of_assign secondLinked with twoLinked | ⟨twoOwn, subject⟩
      · exact congrArg User.id (tables.legal.eq_of_subject oneMember twoMember oneLinked twoLinked)
      · exact (ready.free keycloakSub subject one.id ⟨one, oneMember, rfl, oneLinked⟩).trans twoOwn.symm
    · rcases subject_of_assign secondLinked with twoLinked | ⟨twoOwn, _⟩
      · exact oneOwn.trans (ready.free keycloakSub subject two.id ⟨two, twoMember, rfl, twoLinked⟩).symm
      · exact oneOwn.trans twoOwn.symm

theorem Ready.linked {keycloakSub : String} (ready : Ready tables id (.signIn (some keycloakSub) role lastLogin)) :
    LinkedTo (tables.apply (.updateUser id (.signIn (some keycloakSub) role lastLogin))) id keycloakSub := by
  obtain ⟨row, member, rfl⟩ := List.mem_map.mp ready.known
  rw [Tables.apply, dif_pos ready.legal]
  refine ⟨_, List.mem_map_of_mem member, assign_id _ _ _, ?_⟩
  rw [assign, if_pos rfl]
  rfl

theorem ids_apply (tables : Tables columns) (write : Write) :
    (tables.apply write).users.map User.id = tables.users.map User.id := by
  cases write with
  | updateUser other assignment =>
      rw [Tables.apply]
      split
      · simp [Function.comp_def]
      · rfl
  | deleteDocuments userID => rfl
  | revokeCredentials userID revokedAt reason => rfl

/-- A write that does not clash with the update leaves it ready. -/
theorem Ready.apply (ready : Ready tables id (.signIn assigned role lastLogin))
    (apart : write.clashes (.updateUser id (.signIn assigned role lastLogin)) = false) :
    Ready (tables.apply write) id (.signIn assigned role lastLogin) := by
  refine ⟨by rw [ids_apply]; exact ready.known, ready.admitted, ?_⟩
  intro keycloakSub subject other linked
  rcases linked.of_apply with before | ⟨assignment, rfl, same⟩
  · exact ready.free keycloakSub subject other before
  · simp only [Write.clashes, same, Option.any_some, Bool.or_eq_false_iff, decide_eq_false_iff_not] at apart
    exact absurd subject apart.2

theorem Ready.drift (ready : Ready tables id (.signIn assigned role lastLogin)) (drifts : Drifts tables drifted) :
    Ready drifted id (.signIn assigned role lastLogin) := by
  obtain ⟨row, member, rfl⟩ := List.mem_map.mp ready.known
  refine ⟨drifts.known row member, ready.admitted, ?_⟩
  intro keycloakSub subject other linked
  exact ready.free keycloakSub subject other ((drifts.links _ _).mp linked)

end Readiness

section Runs

variable {C : Type} [DecidableEq C] {calls : C → Login} {tables : Tables columns}
  {trace : List (C × (database columns).Event)} {state final : Store (database columns) C}

/-- A write of a call comes after its reads, and it is the update of the row that the call has found. -/
theorem write_of_executes {login : Login} {earlier later : List (database columns).Event} {write : Write}
    {answer : Option Unit} {outcome : Except LoginFault User}
    (executed : Executes (upsertUser login) (earlier ++ ⟨.write write, answer⟩ :: later) outcome) :
    (∀ event ∈ earlier, Reads event.operation) ∧
      ∃ row now, write = .updateUser row.id (login.assignment row now) := by
  obtain ⟨first, between, found, rfl, only, continued⟩ := reads_before (findUser_reads login)
    (@not_reads_write (database columns) write) executed
  have ended (value : Except LoginFault User) : between ++ ⟨.write write, answer⟩ :: later ≠ [] := by simp
  cases found with
  | none => exact absurd continued.1 (ended outcome)
  | some row =>
      dsimp only at continued
      split at continued
      · rcases ask_event_cases continued with ⟨_, contrary⟩ | ⟨now, afterRead, rfl, writes⟩
        · cases contrary
        · have clock : Reads (.read Query.now : (database columns).Operation) := ⟨Query.now, rfl⟩
          rcases ask_event_cases writes with ⟨rfl, same⟩ | ⟨_, afterWrite, rfl, commits⟩
          · refine ⟨?_, row, now, Operation.write.inj same⟩
            intro event member
            rcases List.mem_append.mp member with read | last
            · exact only event read
            · rw [List.mem_singleton.mp last]
              exact clock
          · rcases ask_event_cases commits with ⟨_, contrary⟩ | ⟨_, afterCommit, rfl, done⟩
            · cases contrary
            · exact absurd done.1 (by simp)
      · exact absurd continued.1 (ended outcome)

/-- At most one update of a call is pending, and it is ready. -/
def Prepared (state : Store (database columns) C) : Prop :=
  ∀ call, state.pending call = [] ∨ ∃ id assigned role lastLogin,
    state.pending call = [.updateUser id (.signIn assigned role lastLogin)] ∧
      Ready state.tables id (.signIn assigned role lastLogin)

theorem clashes_symmetric (first second : Write) : first.clashes second = second.clashes first := by
  cases first with
  | updateUser one oneAssignment =>
      cases second with
      | updateUser two twoAssignment =>
          rw [Write.clashes, Write.clashes]
          cases oneAssignment.subject <;> cases twoAssignment.subject <;> simp [eq_comm]
      | deleteDocuments => rfl
      | revokeCredentials => rfl
  | deleteDocuments one => cases second <;> simp [Write.clashes, eq_comm]
  | revokeCredentials one => cases second <;> simp [Write.clashes, eq_comm]

/-- What another call commits leaves an update ready. -/
theorem Ready.view {id : Uuid} {assigned role : Option String} {lastLogin : Zkp.Instant} {pending : List Write}
    (ready : Ready tables id (.signIn assigned role lastLogin))
    (apart : ∀ write ∈ pending, write.clashes (.updateUser id (.signIn assigned role lastLogin)) = false) :
    Ready (@view (database columns) tables pending) id (.signIn assigned role lastLogin) := by
  induction pending generalizing tables with
  | nil => exact ready
  | cons write rest inductionHypothesis =>
      exact inductionHypothesis (ready.apply (apart write List.mem_cons_self))
        fun later member => apart later (List.mem_cons_of_mem _ member)

theorem prepared_of_run (run : Concurrent Drifts tables trace state)
    (begun : Begun (fun call => upsertUser (calls call)) trace) : Prepared state := by
  induction run with
  | start => exact fun call => .inl rfl
  | drift run moved inductionHypothesis =>
      intro call
      rcases inductionHypothesis begun call with empty | ⟨id, assigned, role, lastLogin, single, ready⟩
      · exact .inl empty
      · exact .inr ⟨id, assigned, role, lastLogin, single, ready.drift moved⟩
  | @step trace state next entry run step inductionHypothesis =>
      have prepared := inductionHypothesis begun.of_concat
      cases step with
      | read => exact prepared
      | write call write admitted free =>
          intro other
          by_cases own : other = call
          · subst own
            obtain ⟨later, outcome, executed⟩ := begun other
            rw [eventsOf_concat_self, List.append_assoc] at executed
            obtain ⟨only, row, now, rfl⟩ := write_of_executes executed
            have nothing : state.pending other = [] := by
              rw [run.pending_eq other]
              exact (saveEvent_of_reads only).2
            rw [nothing] at admitted
            right
            refine ⟨row.id, _, _, now, (Function.update_self _ _ _).trans ?_, ready_of_admits admitted⟩
            rw [nothing]
            rfl
          · rcases prepared other with empty | ⟨id, assigned, role, lastLogin, single, ready⟩
            · exact .inl ((Function.update_of_ne own _ _).trans empty)
            · exact .inr ⟨id, assigned, role, lastLogin, (Function.update_of_ne own _ _).trans single, ready⟩
      | commit call =>
          intro other
          by_cases own : other = call
          · subst own
            exact .inl (Function.update_self _ _ _)
          · rcases prepared other with empty | ⟨id, assigned, role, lastLogin, single, ready⟩
            · exact .inl ((Function.update_of_ne own _ _).trans empty)
            · refine .inr ⟨id, assigned, role, lastLogin, (Function.update_of_ne own _ _).trans single, ready.view ?_⟩
              intro write member
              exact run.apart clashes_symmetric (Ne.symm own) write member _ (single ▸ List.mem_singleton_self _)
      | fail call operation =>
          intro other
          by_cases own : other = call
          · subst own
            exact .inl (Function.update_self _ _ _)
          · rcases prepared other with empty | ⟨id, assigned, role, lastLogin, single, ready⟩
            · exact .inl ((Function.update_of_ne own _ _).trans empty)
            · exact .inr ⟨id, assigned, role, lastLogin, (Function.update_of_ne own _ _).trans single, ready⟩

end Runs

section Stability

variable {C : Type} [DecidableEq C] {calls : C → Login} {tables : Tables columns}
  {moments : History (database columns) C} {start state next final : Store (database columns) C}
  {id : Uuid} {keycloakSub : String}

/-- A commit updates only rows that have no link, or that keep the link that they have. -/
def KeepsLinks (moment : Moment (Store (database columns) C) (Option (C × (database columns).Event))) : Prop :=
  ∀ call, moment.label = some (call, committed) → ∀ write ∈ moment.state.pending call,
    ∀ id keycloakSub, LinkedTo moment.state.tables id keycloakSub → write.Keeps id keycloakSub

theorem linked_of_moves {label : Option (C × (database columns).Event)} (moves : Moves Drifts state label next)
    (guarded : KeepsLinks ⟨state, label⟩) (linked : LinkedTo state.tables id keycloakSub) :
    LinkedTo next.tables id keycloakSub := by
  cases moves with
  | drift drifted drifts => exact (drifts.links id keycloakSub).mpr linked
  | @step _ entry step =>
      rcases step.tables_cases with same | ⟨commits, changed⟩
      · rw [same]
        exact linked
      · obtain ⟨call, event⟩ := entry
        obtain rfl : event = committed := commits
        rw [changed]
        exact linked.view fun write member => guarded call rfl write member id keycloakSub linked

/-- In a guarded run a link lasts. -/
theorem linked_of_runs (run : Runs (Moves Drifts) start moments final) (guarded : ∀ moment ∈ moments, KeepsLinks moment)
    (linked : LinkedTo start.tables id keycloakSub) :
    LinkedTo final.tables id keycloakSub ∧ ∀ moment ∈ moments, LinkedTo moment.state.tables id keycloakSub :=
  run.keeps (fun state => LinkedTo state.tables id keycloakSub)
    (fun moment member _ moves linked => linked_of_moves moves (guarded moment member) linked) linked

/-- A row that a query of a call has found with a subject stays linked to it. -/
theorem linked_of_read {call : C} {row : User} {query : Query} {result : query.Result}
    {earlier later : List (database columns).Event} (run : Runs (Moves Drifts) ⟨tables, fun _ => []⟩ moments final)
    (guarded : ∀ moment ∈ moments, KeepsLinks moment)
    (events : eventsOf (traceOf moments) call = earlier ++ ⟨.read query, some result⟩ :: later)
    (only : ∀ event ∈ earlier, Reads event.operation)
    (finds : ∀ tables : Tables columns, result = tables.answer query → row ∈ tables.users)
    (link : row.keycloakSub = some keycloakSub) : LinkedTo final.tables row.id keycloakSub := by
  obtain ⟨before, state, next, after, rfl, _, pending, step, rest⟩ := moment_of_event run events
  rw [(saveEvent_of_reads only).2] at pending
  obtain ⟨rfl, answered⟩ := step.of_read
  rw [pending] at answered
  have linked : LinkedTo next.tables row.id keycloakSub := ⟨row, finds next.tables answered, rfl, link⟩
  exact (linked_of_runs rest (fun moment member => guarded moment (by simp [member])) linked).1

/-- A subject that a call has assigned stays linked to the row. -/
theorem linked_of_commit {call : C} {id : Uuid} {role : Option String} {lastLogin : Zkp.Instant}
    {earlier later : List (database columns).Event} (run : Runs (Moves Drifts) ⟨tables, fun _ => []⟩ moments final)
    (begun : Begun (fun call => upsertUser (calls call)) (traceOf moments))
    (guarded : ∀ moment ∈ moments, KeepsLinks moment)
    (events : eventsOf (traceOf moments) call = earlier ++ committed :: later)
    (written : earlier.foldl saveEvent [] = [.updateUser id (.signIn (some keycloakSub) role lastLogin)]) :
    LinkedTo final.tables id keycloakSub := by
  obtain ⟨before, state, next, after, rfl, concurrent, pending, step, rest⟩ := moment_of_event run events
  rw [traceOf, List.filterMap_append] at begun
  rcases prepared_of_run concurrent begun.of_append call with empty | ⟨other, assigned, otherRole, time, single, ready⟩
  · rw [pending, written] at empty
    cases empty
  · rw [pending, written] at single
    cases single
    have linked : LinkedTo next.tables id keycloakSub := by
      rw [step.of_commit, pending, written]
      exact ready.linked
    exact (linked_of_runs rest (fun moment member => guarded moment (by simp [member])) linked).1

/-- A call returns a user who is linked to its subject from then on. -/
theorem linked_of_returned {call : C} {user : User} (run : Runs (Moves Drifts) ⟨tables, fun _ => []⟩ moments final)
    (begun : Begun (fun call => upsertUser (calls call)) (traceOf moments))
    (guarded : ∀ moment ∈ moments, KeepsLinks moment)
    (returned : Returned (fun call => upsertUser (calls call)) (traceOf moments) call user) :
    LinkedTo final.tables user.id (calls call).keycloakSub := by
  obtain ⟨reads, row, now, found, rfl, events⟩ := executes_upsertUser returned
  have only := (findUser_reads (calls call)).events found
  change LinkedTo final.tables row.id (calls call).keycloakSub
  by_cases link : row.keycloakSub = some (calls call).keycloakSub
  · rcases read_of_findUser found with member | ⟨email, member⟩
    · obtain ⟨earlier, between, rfl⟩ := List.append_of_mem member
      simp only [List.append_assoc, List.cons_append] at events
      refine linked_of_read run guarded events (fun event present => only event (by simp [present])) ?_ link
      exact fun tables answered => List.mem_of_find?_eq_some answered.symm
    · obtain ⟨earlier, between, rfl⟩ := List.append_of_mem member
      simp only [List.append_assoc, List.cons_append] at events
      refine linked_of_read run guarded events (fun event present => only event (by simp [present])) ?_ link
      exact fun tables answered => List.mem_of_find?_eq_some answered.symm
  · have written : (reads ++ updateEvents (calls call) row now).foldl (@saveEvent (database columns)) [] =
        [Write.updateUser row.id ((calls call).assignment row now)] := by
      rw [List.foldl_append, (saveEvent_of_reads only).2]
      rfl
    rw [Login.assignment, if_neg link] at written
    exact linked_of_commit run begun guarded events written

/-- Each link lasts, the user of a call is linked to its subject alone, and two subjects never share a user. -/
structure StableLinks (calls : C → Login) (moments : History (database columns) C)
    (final : Store (database columns) C) : Prop where
  kept : ∀ earlier moment later, moments = earlier ++ moment :: later → ∀ id keycloakSub,
    LinkedTo moment.state.tables id keycloakSub →
      LinkedTo final.tables id keycloakSub ∧ ∀ other ∈ later, LinkedTo other.state.tables id keycloakSub
  own : ∀ call user, Returned (fun call => upsertUser (calls call)) (traceOf moments) call user →
    ∀ moment ∈ moments, ∀ keycloakSub, LinkedTo moment.state.tables user.id keycloakSub →
      (calls call).keycloakSub = keycloakSub
  apart : ∀ first firstUser second secondUser,
    Returned (fun call => upsertUser (calls call)) (traceOf moments) first firstUser →
      Returned (fun call => upsertUser (calls call)) (traceOf moments) second secondUser →
        firstUser.id = secondUser.id → (calls first).keycloakSub = (calls second).keycloakSub

end Stability

section Samples

instance (assignment : Assignment) (keycloakSub : String) : Decidable (assignment.Keeps keycloakSub) :=
  match assignment with
  | .anonymise => .isFalse id
  | .signIn assigned _ _ => inferInstanceAs (Decidable (∀ other ∈ assigned, other = keycloakSub))

instance (write : Write) (id : Uuid) (keycloakSub : String) : Decidable (write.Keeps id keycloakSub) :=
  match write with
  | .updateUser other assignment => inferInstanceAs (Decidable (other = id → assignment.Keeps keycloakSub))
  | .deleteDocuments _ => .isTrue trivial
  | .revokeCredentials .. => .isTrue trivial

theorem keepsLinks_of_pending {C : Type} {moment : Moment (Store (database columns) C) _}
    (kept : ∀ call, ∀ write ∈ moment.state.pending call, ∀ row ∈ moment.state.tables.users,
      ∀ keycloakSub ∈ row.keycloakSub, write.Keeps row.id keycloakSub) : KeepsLinks moment := by
  rintro call _ write member _ keycloakSub ⟨row, present, rfl, link⟩
  exact kept call write member row present keycloakSub link

/-- Alice logs in, and somebody else logs in with her e-mail. -/
def sharedEmail : Bool → Login
  | false => ⟨"alice", .string "alice@bank01.example", none⟩
  | true => ⟨"mallory", .string "alice@bank01.example", none⟩

/-- Both present an e-mail of their own, and only the one of Alice is known. -/
def ownEmails : Bool → Login
  | false => sharedEmail false
  | true => ⟨"mallory", .string "mallory@bank01.example", none⟩

/-- The first call ends before the second one starts. -/
def oneAfterTheOther : List Bool := [false, false, false, false, true, true, true, true, true]

def linkedAlice : Store (database sqlUsers) Bool := ⟨aliceTables sqlUsers aliceRow_legal, fun _ => []⟩

end Samples

end Pxtly.Auth
