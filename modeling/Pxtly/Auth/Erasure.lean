/-
This file gives the erasure of an account over the database, the Redis store and Keycloak.
-/

import Pxtly.Auth.Dependencies
import Pxtly.Auth.Logout

namespace Pxtly.Auth

open Foundation Program
open Assets (Uuid)
open Zkp (ZKPCredential)

variable {columns : UserColumns}

section Program

/-- Keycloak is asked to delete the user; its answer tells whether it did. -/
inductive ErasureOperation (columns : UserColumns) where
  | database (operation : (database columns).Operation)
  | redis (command : Expiring.Command String Int)
  | deleteKeycloakUser (keycloakSub : String)

abbrev ErasureOperation.Answer : ErasureOperation columns → Type
  | .database operation => Option operation.Result
  | .redis command => command.Answer
  | .deleteKeycloakUser _ => Bool

variable (columns)

abbrev erasureSignature : Signature where
  Operation := ErasureOperation columns
  Answer := ErasureOperation.Answer

inductive ErasureFault where
  | databaseError
  | redisError
  deriving DecidableEq, Repr

abbrev ErasureProgram (A : Type) := Program (erasureSignature columns) ErasureFault A

variable {columns}

def askDatabase (operation : (database columns).Operation) : ErasureProgram columns operation.Result :=
  .perform (.database operation) fun
    | some result => .done result
    | none => .raise .databaseError

def erasureReason : String := "gdpr_erasure"

/-- The sessions of the user are invalidated, and Keycloak is asked to delete the user, whatever it answers. -/
def endSessions (keycloakSub : String) (mark : Int) : ErasureProgram columns Unit :=
  .perform (.redis (.setex (invalidatedKey keycloakSub) (erasureTTL * microsPerSecond) mark)) fun
    | none => .raise .redisError
    | some () =>
        if keycloakSub = "" then .done ()
        else .perform (.deleteKeycloakUser keycloakSub) fun _ => .done ()

/-- The session does not flush by itself, so the update of the user is written when the transaction commits. -/
def deleteMyAccount (currentUser : User) : ErasureProgram columns Unit := do
  let userID := currentUser.id
  let keycloakSub := currentUser.keycloakSub.getD ""
  askDatabase (.write (.deleteDocuments userID))
  let now ← call (S := erasureSignature columns) (.redis .now)
  askDatabase (.write (.revokeCredentials userID now erasureReason))
  askDatabase (.write (.updateUser userID .anonymise))
  askDatabase .commit
  endSessions keycloakSub (now / microsPerSecond)

end Program

section Environment

/-- The transaction of the request is the only one. -/
structure World (columns : UserColumns) where
  session : Database.Session (database columns)
  redis : Redis

def World.start (tables : Tables columns) (redis : Redis) : World columns := ⟨(tables, []), redis⟩

/-- Each operation may fail; the reply to a commit may be lost as well. -/
inductive ErasureResponds (now : Int) :
    (operation : ErasureOperation columns) → World columns → operation.Answer → World columns → Prop where
  | answered (operation : (database columns).Operation) (world : World columns) :
      ErasureResponds now (.database operation) world (Database.respond operation world.session).1
        { world with session := (Database.respond operation world.session).2 }
  | failed (operation : (database columns).Operation) (world : World columns) :
      ErasureResponds now (.database operation) world none { world with session := (world.session.1, []) }
  | unconfirmed (world : World columns) :
      ErasureResponds now (.database .commit) world none
        { world with session := (Database.view world.session.1 world.session.2, []) }
  | redis (command : Expiring.Command String Int) (world : World columns) (answer : command.Answer) (later : Redis)
      (responded : Expiring.Responds now command world.redis answer later) :
      ErasureResponds now (.redis command) world answer { world with redis := later }
  | keycloak (keycloakSub : String) (world : World columns) (deleted : Bool) :
      ErasureResponds now (.deleteKeycloakUser keycloakSub) world deleted world

/-- Here no operation fails. -/
def World.respond (now : Int) : (operation : ErasureOperation columns) → World columns → operation.Answer × World columns
  | .database operation, world =>
      ((Database.respond operation world.session).1, { world with session := (Database.respond operation world.session).2 })
  | .redis command, world =>
      ((Expiring.respond now command world.redis).1, { world with redis := (Expiring.respond now command world.redis).2 })
  | .deleteKeycloakUser _, world => (true, world)

theorem World.responds_respond (now : Int) (operation : ErasureOperation columns) (world : World columns) :
    ErasureResponds now operation world (World.respond now operation world).1 (World.respond now operation world).2 := by
  cases operation with
  | database operation => exact .answered operation world
  | redis command => exact .redis command world _ _ (Expiring.responds_respond now command world.redis)
  | deleteKeycloakUser keycloakSub => exact .keycloak keycloakSub world true

end Environment

section Operations

variable {A : Type} {now : Int} {world later final : World columns} {outcome : Except ErasureFault A}

/-- A failed operation ends the request and leaves its tables as they are, unless it is the commit. -/
theorem reaches_askDatabase {operation : (database columns).Operation}
    {next : operation.Result → ErasureProgram columns A}
    (reaches : (askDatabase operation >>= next).Reaches (ErasureResponds now) world outcome final) :
    (∃ result later, ErasureResponds now (.database operation) world (some result) later ∧
      (next result).Reaches (ErasureResponds now) later outcome final) ∨
    (outcome = .error .databaseError ∧ ErasureResponds now (.database operation) world none final) := by
  obtain ⟨answer, later, responded, rest⟩ := reaches
  cases answer with
  | some result => exact .inl ⟨result, later, responded, rest⟩
  | none =>
      obtain ⟨rfl, rfl⟩ := rest
      exact .inr ⟨rfl, responded⟩

theorem written_of_responds {write : Write}
    (responds : ErasureResponds now (.database (.write write)) world (some ()) later) :
    (@Database.view (database columns) world.session.1 world.session.2).admits write = true ∧
      later = { world with session := (world.session.1, world.session.2 ++ [write]) } := by
  generalize same : (some () : Option Unit) = answer at responds
  cases responds with
  | answered =>
      rw [Database.respond] at same ⊢
      split at same
      · next admitted =>
          rw [if_pos admitted]
          exact ⟨admitted, rfl⟩
      · cases same
  | failed => cases same

theorem lost_of_responds {write : Write} (responds : ErasureResponds now (.database (.write write)) world none later) :
    later = { world with session := (world.session.1, []) } := by
  generalize same : (none : Option Unit) = answer at responds
  cases responds with
  | answered =>
      rw [Database.respond] at same ⊢
      split at same
      · cases same
      · next refused => rw [if_neg refused]
  | failed => rfl

theorem committed_of_responds (responds : ErasureResponds now (.database .commit) world (some ()) later) :
    later = { world with session := (Database.view world.session.1 world.session.2, []) } := by
  generalize same : (some () : Option Unit) = answer at responds
  cases responds with
  | answered => rfl
  | failed => cases same
  | unconfirmed => cases same

theorem clock_of_responds {answer : Int} (responds : ErasureResponds now (.redis .now) world answer later) :
    answer = now ∧ later = world := by
  cases responds with
  | redis _ _ _ later responded =>
      cases responded
      exact ⟨rfl, rfl⟩

/-- The tables do not change here, and a request that ends without a fault has written its mark. -/
theorem reaches_endSessions {keycloakSub : String} {mark : Int} {outcome : Except ErasureFault Unit}
    (reaches : (endSessions keycloakSub mark).Reaches (ErasureResponds now) world outcome final) :
    final.session = world.session ∧ (outcome = .ok () → final.redis =
      world.redis.put (invalidatedKey keycloakSub) mark (now + erasureTTL * microsPerSecond)) := by
  obtain ⟨answer, later, responded, reaches⟩ := reaches
  cases responded with
  | redis _ _ _ store responded =>
      cases responded with
      | stored =>
          dsimp only at reaches
          split at reaches
          · obtain ⟨_, rfl⟩ := reaches
            exact ⟨rfl, fun _ => rfl⟩
          · obtain ⟨_, _, responded, _, rfl⟩ := reaches
            cases responded
            exact ⟨rfl, fun _ => rfl⟩
      | unstored =>
          obtain ⟨rfl, rfl⟩ := reaches
          exact ⟨rfl, nofun⟩
      | unconfirmed =>
          obtain ⟨rfl, rfl⟩ := reaches
          exact ⟨rfl, nofun⟩

theorem lost_commit_of_responds (responds : ErasureResponds now (.database .commit) world none later) :
    later = { world with session := (world.session.1, []) } ∨
      later.session = (Database.view world.session.1 world.session.2, []) := by
  generalize same : (none : Option Unit) = answer at responds
  cases responds with
  | answered => cases same
  | failed => exact .inl rfl
  | unconfirmed => exact .inr rfl

end Operations

section Outcomes

/-- The tables of an erasure before its last write. -/
def unlinkedRows (user : User) (now : Int) (tables : Tables columns) : Tables columns :=
  (tables.apply (.deleteDocuments user.id)).apply (.revokeCredentials user.id now erasureReason)

def erasedTables (user : User) (now : Int) (tables : Tables columns) : Tables columns :=
  (unlinkedRows user now tables).apply (.updateUser user.id .anonymise)

variable {now : Int} {tables : Tables columns} {redis : Redis} {user : User} {outcome : Except ErasureFault Unit}
  {final : World columns}

/-- An erasure changes nothing, or its last write was admitted and all of them were committed. -/
theorem deleteMyAccount_cases
    (reaches : (deleteMyAccount user).Reaches (ErasureResponds now) (World.start tables redis) outcome final) :
    (outcome = .error .databaseError ∧ final = World.start tables redis) ∨
    ((unlinkedRows user now tables).admits (.updateUser user.id .anonymise) = true ∧
      final.session = (erasedTables user now tables, []) ∧ (outcome = .ok () → final.redis =
        redis.put (invalidatedKey (user.keycloakSub.getD "")) (now / microsPerSecond)
          (now + erasureTTL * microsPerSecond))) := by
  rcases reaches_askDatabase reaches with ⟨_, _, deleted, reaches⟩ | ⟨failed, lost⟩
  · obtain ⟨_, rfl⟩ := written_of_responds deleted
    obtain ⟨_, _, clock, reaches⟩ := reaches
    obtain ⟨rfl, rfl⟩ := clock_of_responds clock
    rcases reaches_askDatabase reaches with ⟨_, _, revoked, reaches⟩ | ⟨failed, lost⟩
    · obtain ⟨_, rfl⟩ := written_of_responds revoked
      rcases reaches_askDatabase reaches with ⟨_, _, updated, reaches⟩ | ⟨failed, lost⟩
      · obtain ⟨admitted, rfl⟩ := written_of_responds updated
        rcases reaches_askDatabase reaches with ⟨_, _, committed, reaches⟩ | ⟨failed, lost⟩
        · obtain rfl := committed_of_responds committed
          obtain ⟨same, marked⟩ := reaches_endSessions reaches
          exact .inr ⟨admitted, same, marked⟩
        · rcases lost_commit_of_responds lost with unchanged | changed
          · exact .inl ⟨failed, unchanged⟩
          · right
            rw [failed]
            exact ⟨admitted, changed, nofun⟩
      · exact .inl ⟨failed, lost_of_responds lost⟩
    · exact .inl ⟨failed, lost_of_responds lost⟩
  · exact .inl ⟨failed, lost_of_responds lost⟩

end Outcomes

section Rights

/-- No former value of the column is left. -/
def Forgets (former current : Option String) : Prop := ∀ text, former = some text → current ≠ some text

structure Anonymised (user row : User) : Prop where
  email : row.email ≠ user.email
  firstName : Forgets user.firstName row.firstName
  lastName : Forgets user.lastName row.lastName
  phone : Forgets user.phone row.phone
  keycloakSub : Forgets user.keycloakSub row.keycloakSub

/-- The middleware hands the request on, and it has a current user. -/
def Served (keycloak : Keycloak) (tables : Tables columns) (redis : Redis) (now : Int) (request : Request)
    (payload : Payload) : Prop :=
  (∃ later, (dispatch keycloak request).Reaches (RedisResponds now) redis (.ok (.authenticated payload)) later) ∧
    ∃ user, getCurrentUser tables payload.subject = .ok user

/-- The user has left no trace but a row without a person, and the tokens of the user are refused from now on. -/
structure Erased (user : User) (tables : Tables columns) (redis : Redis) : Prop where
  row : ∃ row ∈ tables.users, row.id = user.id ∧ Anonymised user row
  documents : ∀ row ∈ tables.documents, row.userID ≠ user.id
  credentials : ∀ row ∈ tables.credentials, row.userID = user.id → row.revoked
  refused : ∀ keycloak instant request payload, user.keycloakSub = some payload.subject →
    ¬ Served keycloak tables redis instant request payload

variable {now : Int} {tables : Tables columns} {redis : Redis} {user : User} {outcome : Except ErasureFault Unit}
  {final : World columns}

theorem anonymised_apply (different : user.email ≠ anonymisedEmail user.id) :
    Anonymised user (Assignment.anonymise.apply user) :=
  ⟨different.symm, fun _ _ => nofun, fun _ _ => nofun, fun _ _ => nofun, fun _ _ => nofun⟩

theorem erasedTables_users (admitted : (unlinkedRows user now tables).admits (.updateUser user.id .anonymise) = true) :
    (erasedTables user now tables).users = tables.users.map (assign user.id .anonymise) := by
  have legal := of_decide_eq_true (Bool.and_eq_true_iff.mp admitted).2
  rw [erasedTables, Tables.apply, dif_pos legal]
  rfl

theorem erasedTables_documents : (erasedTables user now tables).documents = (unlinkedRows user now tables).documents := by
  rw [erasedTables, Tables.apply]
  split <;> rfl

theorem erasedTables_credentials :
    (erasedTables user now tables).credentials = (unlinkedRows user now tables).credentials := by
  rw [erasedTables, Tables.apply]
  split <;> rfl

theorem revoked_revokeAll {row : ZKPCredential} {revokedAt : Int} {reason : String} (own : row.userID = user.id) :
    (revokeAll user.id revokedAt reason row).revoked = true := by
  unfold revokeAll
  split
  · rfl
  · next other => simpa [own] using other

/-- After an erasure no row is linked to the subject that the user had. -/
theorem unlinked_of_admitted (member : user ∈ tables.users) {keycloakSub : String}
    (linked : user.keycloakSub = some keycloakSub)
    (admitted : (unlinkedRows user now tables).admits (.updateUser user.id .anonymise) = true) :
    ∀ row ∈ (erasedTables user now tables).users, row.keycloakSub ≠ some keycloakSub := by
  intro row changed
  rw [erasedTables_users admitted] at changed
  obtain ⟨former, present, rfl⟩ := List.mem_map.mp changed
  unfold assign
  split
  · exact nofun
  · next other =>
      intro same
      exact other (congrArg User.id (tables.legal.eq_of_subject present member same linked))

/-- An erasure that the columns admit is complete. -/
theorem erased_of_admitted (member : user ∈ tables.users) (different : user.email ≠ anonymisedEmail user.id)
    (admitted : (unlinkedRows user now tables).admits (.updateUser user.id .anonymise) = true) :
    Erased user (erasedTables user now tables) redis where
  row := by
    refine ⟨assign user.id .anonymise user, ?_, assign_id _ _ _, ?_⟩
    · rw [erasedTables_users admitted]
      exact List.mem_map_of_mem member
    · rw [assign, if_pos rfl]
      exact anonymised_apply different
  documents row present := by
    rw [erasedTables_documents] at present
    simpa using (List.mem_filter.mp present).2
  credentials row present own := by
    rw [erasedTables_credentials] at present
    obtain ⟨former, _, rfl⟩ := List.mem_map.mp present
    rw [revokeAll_userID] at own
    exact revoked_revokeAll own
  refused keycloak instant request payload linked := by
    intro ⟨_, row, found⟩
    obtain ⟨_, present, same, _⟩ := getCurrentUser_eq_ok.mp found
    exact unlinked_of_admitted member linked admitted row present same

/-- Where the columns admit it, a request that reaches its commit erases the account. -/
theorem erased_or_unchanged (member : user ∈ tables.users) (different : user.email ≠ anonymisedEmail user.id)
    (reaches : (deleteMyAccount user).Reaches (ErasureResponds now) (World.start tables redis) outcome final) :
    Erased user final.session.1 final.redis ∨ final = World.start tables redis := by
  rcases deleteMyAccount_cases reaches with ⟨_, unchanged⟩ | ⟨admitted, same, _⟩
  · exact .inr unchanged
  · rw [same]
    exact .inl (erased_of_admitted member different admitted)

/-- A request that ends without a fault has also marked the earlier tokens of the user. -/
theorem marked_of_returned {payload : Payload} (linked : user.keycloakSub = some payload.subject)
    (earlier : payload.issuedAt ≤ now / microsPerSecond)
    (expires : payload.expires ≤ now + erasureTTL * microsPerSecond)
    (reaches : (deleteMyAccount user).Reaches (ErasureResponds now) (World.start tables redis) (.ok ()) final) :
    Marked final.redis payload := by
  rcases deleteMyAccount_cases reaches with ⟨failed, _⟩ | ⟨_, _, marked⟩
  · cases failed
  · rw [marked rfl, linked]
    exact Expiring.lasts_put redis _ earlier expires

end Rights

section Refusal

variable {now : Int} {tables : Tables sqlUsers} {redis : Redis} {user : User} {outcome : Except ErasureFault Unit}
  {final : World sqlUsers}

/-- The names of a user are required, so the table refuses every erasure. -/
theorem not_admits_anonymise (tables : Tables sqlUsers) (id : Uuid) :
    tables.admits (.updateUser id .anonymise) = false := by
  by_contra admitted
  rw [Bool.not_eq_false] at admitted
  obtain ⟨known, legal⟩ := Bool.and_eq_true_iff.mp admitted
  obtain ⟨row, member, rfl⟩ := List.mem_map.mp (List.contains_iff_mem.mp known)
  have admits := (of_decide_eq_true legal).admitted _ (List.mem_map_of_mem member)
  rw [assign, if_pos rfl] at admits
  simp [UserColumns.admits, sqlUsers, Assignment.apply, TextColumn.admits] at admits

theorem erasure_refused
    (reaches : (deleteMyAccount user).Reaches (ErasureResponds now) (World.start tables redis) outcome final) :
    outcome = .error .databaseError ∧ final = World.start tables redis := by
  rcases deleteMyAccount_cases reaches with refused | ⟨admitted, _⟩
  · exact refused
  · rw [not_admits_anonymise] at admitted
    cases admitted

/-- Over the tables of the script an account is erased, or nothing changes; the names make it the second. -/
theorem account_erased_or_unchanged
    (reaches : (deleteMyAccount user).Reaches (ErasureResponds now) (World.start tables redis) outcome final) :
    Erased user final.session.1 final.redis ∨ (final.session = (tables, []) ∧ final.redis = redis) := by
  obtain ⟨_, rfl⟩ := erasure_refused reaches
  exact .inr ⟨rfl, rfl⟩

end Refusal

section Samples

def aliceTable : Tables sqlUsers := aliceTables sqlUsers aliceRow_legal

def noMarks : Redis := fun _ => none

theorem alice_erased_or_unchanged :
    let final := ((deleteMyAccount aliceRow).evaluate (World.respond 700000000) (World.start aliceTable noMarks)).2
    Erased aliceRow final.session.1 final.redis ∨ (final.session = (aliceTable, []) ∧ final.redis = noMarks) :=
  account_erased_or_unchanged
    (reaches_evaluate (World.responds_respond 700000000) (deleteMyAccount aliceRow) (World.start aliceTable noMarks))

/-- The mapped class has columns that admit the same erasure. -/
example : ((deleteMyAccount aliceRow).evaluate (World.respond 700000000)
    (World.start (aliceTables ormUsers (by decide +kernel)) fun _ => none)).1 = .ok () := by
  decide +kernel

end Samples

end Pxtly.Auth
