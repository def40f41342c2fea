/-
This file gives the texts under which the keyring keeps token bundles, and over all interleavings that it serves as a
register of bundles.
-/

import Pxtly.Cli.Client
import Pxtly.Foundation.Base64
import Pxtly.Foundation.FormTexts
import Pxtly.Foundation.Interleavings
import Pxtly.Foundation.JsonTexts

namespace Pxtly.Cli.Keyring

open Foundation Program

section Texts

/-- A bundle has the values that its text has, which need not be texts and numbers. -/
structure StoredBundle where
  accessToken : Json
  refreshToken : Json := .null
  tokenType : Json := .string "Bearer"
  expiresAt : Json := .number 0
  refreshExpiresAt : Json := .number 0
  scope : Json := .string ""

def StoredBundle.asdict (bundle : StoredBundle) : List (String × Json) := [
  ("access_token", bundle.accessToken),
  ("refresh_token", bundle.refreshToken),
  ("token_type", bundle.tokenType),
  ("expires_at", bundle.expiresAt),
  ("refresh_expires_at", bundle.refreshExpiresAt),
  ("scope", bundle.scope)]

def fieldNames : List String :=
  ["access_token", "refresh_token", "token_type", "expires_at", "refresh_expires_at", "scope"]

/-- This is `cls(**members)`: another key and a missing access token raise an error. -/
def StoredBundle.ofMembers (members : List (String × Json)) : Option StoredBundle :=
  if members.all fun member => member.1 ∈ fieldNames then
    (dictGet members "access_token").map fun accessToken => {
      accessToken
      refreshToken := (dictGet members "refresh_token").getD .null
      tokenType := (dictGet members "token_type").getD (.string "Bearer")
      expiresAt := (dictGet members "expires_at").getD (.number 0)
      refreshExpiresAt := (dictGet members "refresh_expires_at").getD (.number 0)
      scope := (dictGet members "scope").getD (.string "") }
  else none

def byteOrderMarks : List Bytes := [[0xEF, 0xBB, 0xBF], [0xFE, 0xFF], [0xFF, 0xFE], [0, 0, 0xFE, 0xFF]]

/-- No byte order mark and no null among the first bytes says that the text is in another encoding. -/
def detectsUtf8 (data : Bytes) : Bool :=
  !(byteOrderMarks.any fun mark => mark.isPrefixOf data) &&
    match data with
    | [first, second] => first != 0 && second != 0
    | first :: second :: _ :: _ :: _ => first != 0 && second != 0
    | _ => true

variable (floats : FloatTexts) (decodeOther : Bytes → Option (List Char))

/-- `json.loads` detects the encoding of its bytes, and other encodings than UTF-8 are decoded by other means. -/
def decodeDetected (data : Bytes) : Option (List Char) :=
  if detectsUtf8 data then (String.fromUTF8? ⟨data.toArray⟩).map String.toList else decodeOther data

/-- An integer of too many digits raises an error. -/
def StoredBundle.toB64 (bundle : StoredBundle) : Option String :=
  if (Json.object bundle.asdict).every Json.digitsFit then
    some (urlsafeB64encode (encode (dumpsSpaced floats (.object bundle.asdict))))
  else none

def StoredBundle.fromB64 (text : String) : Option StoredBundle := do
  let data ← urlsafeB64decode text
  let content ← decodeDetected decodeOther data
  match ← loads floats.read content with
  | .object members => ofMembers members
  | _ => none

end Texts

section Programs

inductive KeyringStep where
  | getPassword
  | setPassword (text : String)
  | deletePassword

/-- A keyring that raises an error has failed. -/
abbrev KeyringStep.Answer : KeyringStep → Type
  | .getPassword => Option (Option String)
  | .setPassword _ => Option Unit
  | .deletePassword => Option Unit

def keyringSignature : Signature where
  Operation := KeyringStep
  Answer := KeyringStep.Answer

inductive TokenFault where
  | runtimeError
  | valueError
  | other (text : String)

abbrev KeyringProgram (A : Type) := Program keyringSignature TokenFault A

def ask (step : KeyringStep) : KeyringProgram step.Answer := call (S := keyringSignature) step

variable (floats : FloatTexts) (decodeOther : Bytes → Option (List Char))

def saveTokenBundle (bundle : StoredBundle) : KeyringProgram Unit :=
  match bundle.toB64 floats with
  | none => .raise .valueError
  | some text => do
      match ← ask (.setPassword text) with
      | some () => return ()
      | none => .raise .runtimeError

/-- An error of the keyring is at most logged. -/
def deleteTokens : KeyringProgram Unit := do
  let _ ← ask .deletePassword
  return ()

/-- A text that is not read as a bundle is deleted. -/
def bundleOf : Option (Option String) → KeyringProgram (Option StoredBundle)
  | none => return none
  | some none => return none
  | some (some raw) =>
      if raw = "" then return none
      else match StoredBundle.fromB64 floats decodeOther raw with
        | some bundle => return some bundle
        | none => do
            deleteTokens
            return none

def getTokenBundle : KeyringProgram (Option StoredBundle) := do
  bundleOf floats decodeOther (← ask .getPassword)

def getAccessToken : KeyringProgram (Option Json) := do
  return (← getTokenBundle floats decodeOther).map StoredBundle.accessToken

def hasTokens : KeyringProgram Bool := do
  return (← getTokenBundle floats decodeOther).isSome

end Programs

section RoundTrip

/-- The bytes of a text of printable characters are their codes. -/
theorem printable_encode {text : String} (printable : PrintableText text) :
    ∀ byte ∈ encode text, 32 ≤ byte.toNat ∧ byte.toNat < 127 := by
  intro byte member
  rw [encode_eq_flatMap, List.mem_flatMap] at member
  obtain ⟨c, inside, coded⟩ := member
  have bounds := printable c inside
  simp only [isPrintable, Bool.and_eq_true, decide_eq_true_eq] at bounds
  have size : c.utf8Size = 1 := Char.utf8Size_eq_one_iff.mpr (by
    rw [UInt32.le_iff_toNat_le]
    exact Nat.le_of_lt bounds.2)
  rw [String.utf8EncodeChar_eq_singleton size, List.mem_singleton] at coded
  have code : byte.toNat = c.toNat := by
    rw [coded]
    change c.val.toNat % 256 = c.val.toNat
    exact Nat.mod_eq_of_lt (bounds.2.trans (by decide))
  omega

theorem detectsUtf8_of_printable {data : Bytes} (printable : ∀ byte ∈ data, 32 ≤ byte.toNat ∧ byte.toNat < 127) :
    detectsUtf8 data = true := by
  have nonzero : ∀ byte ∈ data, (byte != 0) = true := by
    intro byte member
    rw [bne_iff_ne]
    rintro rfl
    exact absurd (printable _ member).1 (by decide)
  have unmarked (first : UInt8) (later : Bytes) (foreign : ¬ (32 ≤ first.toNat ∧ first.toNat < 127)) :
      (first :: later).isPrefixOf data = false := by
    rw [Bool.eq_false_iff]
    intro begins
    exact foreign (printable first ((List.isPrefixOf_iff_prefix.mp begins).subset List.mem_cons_self))
  unfold detectsUtf8 byteOrderMarks
  simp only [List.any_cons, List.any_nil, unmarked 0xEF _ (by decide), unmarked 0xFE _ (by decide),
    unmarked 0xFF _ (by decide), unmarked 0 _ (by decide), Bool.or_false, Bool.not_false, Bool.true_and]
  split
  · exact Bool.and_eq_true_iff.mpr ⟨nonzero _ (by simp), nonzero _ (by simp)⟩
  · exact Bool.and_eq_true_iff.mpr ⟨nonzero _ (by simp), nonzero _ (by simp)⟩
  · rfl

theorem decodeDetected_encode (decodeOther : Bytes → Option (List Char)) {text : String}
    (printable : PrintableText text) : decodeDetected decodeOther (encode text) = some text.toList := by
  rw [decodeDetected, if_pos (detectsUtf8_of_printable (printable_encode printable)), fromUTF8_encode]
  rfl

variable {floats : FloatTexts} {decodeOther : Bytes → Option (List Char)} {bundle : StoredBundle}

/-- JSON can represent every value of the bundle. -/
def StoredBundle.Written (bundle : StoredBundle) : Prop := (Json.object bundle.asdict).every Json.written = true

theorem ofMembers_asdict (bundle : StoredBundle) : StoredBundle.ofMembers bundle.asdict = some bundle := by
  simp [StoredBundle.ofMembers, StoredBundle.asdict, fieldNames, dictGet]

variable (floats) in
theorem toB64_of_written (written : bundle.Written) :
    bundle.toB64 floats = some (urlsafeB64encode (encode (dumpsSpaced floats (.object bundle.asdict)))) := by
  have both := (Json.every_and Json.digitsFit Json.isNumeric (.object bundle.asdict)).symm.trans written
  exact if_pos (Bool.and_eq_true_iff.mp both).1

/-- A bundle is read back from its text. -/
theorem fromB64_toB64 (written : bundle.Written) {text : String} (encoded : bundle.toB64 floats = some text) :
    StoredBundle.fromB64 floats decodeOther text = some bundle := by
  rw [toB64_of_written floats written] at encoded
  obtain rfl := Option.some.inj encoded
  have printable : PrintableText (dumpsSpaced floats (.object bundle.asdict)) := plain_dumpsSpaced _ written
  have read : loads floats.read (dumpsSpaced floats (.object bundle.asdict)).toList = some (.object bundle.asdict) :=
    loads_dumpsSpaced written
  simp only [StoredBundle.fromB64, urlsafeB64decode_encode, decodeDetected_encode decodeOther printable, read,
    Option.bind_eq_bind, Option.bind_some]
  exact ofMembers_asdict bundle

/-- The empty text is no bundle. -/
theorem fromB64_empty (floats : FloatTexts) (decodeOther : Bytes → Option (List Char)) :
    StoredBundle.fromB64 floats decodeOther "" = none := by
  have none : PrintableText "" := nofun
  have decoded : decodeDetected decodeOther [] = some [] := decodeDetected_encode decodeOther none
  have bytes : urlsafeB64decode "" = some [] := rfl
  simp only [StoredBundle.fromB64, bytes, decoded, Option.bind_eq_bind, Option.bind_some]
  rfl

end RoundTrip

section Requests

variable {floats : FloatTexts} {decodeOther : Bytes → Option (List Char)} {bundle : StoredBundle}

/-- A request takes the times of a bundle as exact numbers. -/
def StoredBundle.seen (conversions : Conversions) (bundle : StoredBundle) : Option TokenBundle := do
  let expiresAt ← conversions.float bundle.expiresAt
  let refreshExpiresAt ← conversions.float bundle.refreshExpiresAt
  return {
    accessToken := bundle.accessToken
    refreshToken := bundle.refreshToken
    tokenType := bundle.tokenType
    expiresAt
    refreshExpiresAt
    scope := bundle.scope }

variable (floats decodeOther) in
/-- A request sees the bundle of a text or that the text has none. -/
def storedOf (conversions : Conversions) (raw : String) : Option Stored :=
  match StoredBundle.fromB64 floats decodeOther raw with
  | none => some .corrupt
  | some bundle => (bundle.seen conversions).map .bundle

theorem storedOf_toB64 {conversions : Conversions} (written : bundle.Written) {text : String}
    (encoded : bundle.toB64 floats = some text) :
    storedOf floats decodeOther conversions text = (bundle.seen conversions).map .bundle := by
  rw [storedOf, fromB64_toB64 written encoded]

/-- What a request sees decides whether the bundle is returned or the text is deleted. -/
theorem bundleOf_seen {conversions : Conversions} {raw : String} (nonempty : raw ≠ "") {stored : Stored}
    (sees : storedOf floats decodeOther conversions raw = some stored) :
    match stored with
    | .bundle bundle => ∃ kept : StoredBundle,
        bundleOf floats decodeOther (some (some raw)) = .done (some kept) ∧ kept.seen conversions = some bundle
    | .corrupt => bundleOf floats decodeOther (some (some raw)) = do
        deleteTokens
        return none := by
  rw [storedOf] at sees
  rw [bundleOf, if_neg nonempty]
  cases read : StoredBundle.fromB64 floats decodeOther raw with
  | none =>
      rw [read] at sees
      obtain rfl := Option.some.inj sees
      rfl
  | some kept =>
      rw [read] at sees
      obtain ⟨bundle, known, rfl⟩ := Option.map_eq_some_iff.mp sees
      exact ⟨kept, rfl, known⟩

end Requests

section Register

variable {floats : FloatTexts} {decodeOther : Bytes → Option (List Char)} {bundle : StoredBundle}

/-- The keyring is used as a register of bundles by these steps. -/
inductive TokenStep where
  | save (bundle : StoredBundle)
  | get
  | delete

abbrev TokenStep.Answer : TokenStep → Type
  | .save _ => Except TokenFault Unit
  | .get => Option StoredBundle
  | .delete => Unit

def tokenSignature : Signature where
  Operation := TokenStep
  Answer := TokenStep.Answer

abbrev TokenProgram (A : Type) := Program tokenSignature TokenFault A

variable (floats decodeOther) in
def TokenStep.carry : (step : TokenStep) → KeyringProgram step.Answer
  | .save bundle => (saveTokenBundle floats bundle).attempt
  | .get => getTokenBundle floats decodeOther
  | .delete => deleteTokens

def TokenStep.Writes : TokenStep → Prop
  | .save bundle => bundle.Written
  | _ => True

/-- A keyring that fails is left as it was. -/
def KeyringResponds : (step : KeyringStep) → Option String → step.Answer → Option String → Prop
  | .getPassword, keyring, answer, later => later = keyring ∧ (answer = none ∨ answer = some keyring)
  | .setPassword text, keyring, answer, later =>
      later = match answer with
        | none => keyring
        | some () => some text
  | .deletePassword, keyring, answer, later =>
      later = match answer with
        | none => keyring
        | some () => none

/-- A register that fails to answer says that it holds nothing, and it is left as it was. -/
def RegisterResponds : (step : TokenStep) → Option StoredBundle → step.Answer → Option StoredBundle → Prop
  | .get, register, answer, later => later = register ∧ (answer = none ∨ answer = register)
  | .save bundle, register, answer, later =>
      (answer = .error .runtimeError ∧ later = register) ∨ (answer = .ok () ∧ later = some bundle)
  | .delete, register, _, later => later = register ∨ later = none

variable (floats decodeOther) in
/-- The text of the keyring is that of the bundle in the register, where only the empty text is without a bundle. -/
def Holds (keyring : Option String) (register : Option StoredBundle) : Prop :=
  match keyring with
  | none => register = none
  | some text => if text = "" then register = none else
      ∃ bundle, register = some bundle ∧ StoredBundle.fromB64 floats decodeOther text = some bundle

variable (floats decodeOther) in
/-- A bundle is saved under a text that is read as this bundle. -/
inductive Performs : TokenStep → KeyringStep → Prop where
  | save {bundle : StoredBundle} {text : String} (read : StoredBundle.fromB64 floats decodeOther text = some bundle) :
      Performs (.save bundle) (.setPassword text)
  | get : Performs .get .getPassword
  | delete : Performs .delete .deletePassword

variable (floats decodeOther) in
theorem carry_save (written : bundle.Written) :
    ∃ text, StoredBundle.fromB64 floats decodeOther text = some bundle ∧ text ≠ "" ∧
      TokenStep.carry floats decodeOther (.save bundle) = .perform (S := keyringSignature) (.setPassword text) fun
        | some () => .done (.ok ())
        | none => .done (.error .runtimeError) := by
  have encoded := toB64_of_written floats written
  have read : StoredBundle.fromB64 floats decodeOther _ = some bundle := fromB64_toB64 written encoded
  refine ⟨_, read, fun empty => ?_, ?_⟩
  · rw [empty, fromB64_empty] at read
    cases read
  · simp only [TokenStep.carry, saveTokenBundle, encoded]
    refine congrArg (Program.perform _) (funext fun answer => ?_)
    cases answer <;> rfl

/-- Where the text is that of a bundle, it is not deleted. -/
theorem bundleOf_of_holds {keyring : Option String} {register : Option StoredBundle}
    (holds : Holds floats decodeOther keyring register) :
    bundleOf floats decodeOther (some keyring) = .done register := by
  cases keyring with
  | none =>
      obtain rfl : register = none := holds
      rfl
  | some text =>
      by_cases empty : text = ""
      · rw [Holds, if_pos empty] at holds
        rw [bundleOf, if_pos empty, holds]
        rfl
      · rw [Holds, if_neg empty] at holds
        obtain ⟨bundle, rfl, read⟩ := holds
        rw [bundleOf, if_neg empty, read]
        rfl

theorem carries (step : TokenStep) (writes : step.Writes) :
    Pool.Carries (S := tokenSignature) (TokenStep.carry floats decodeOther) RegisterResponds KeyringResponds
      (Holds floats decodeOther) (Performs floats decodeOther) step := by
  cases step with
  | save bundle =>
      obtain ⟨text, read, nonempty, carried⟩ := carry_save floats decodeOther writes
      refine ⟨_, _, carried, .save read, ?_⟩
      intro keyring register answer later holds answered
      cases answer with
      | none =>
          obtain rfl : later = keyring := answered
          exact ⟨.error .runtimeError, register, rfl, .inl ⟨rfl, rfl⟩, holds⟩
      | some _ =>
          obtain rfl : later = some text := answered
          refine ⟨.ok (), some bundle, rfl, .inr ⟨rfl, rfl⟩, ?_⟩
          rw [Holds, if_neg nonempty]
          exact ⟨bundle, rfl, read⟩
  | get =>
      refine ⟨.getPassword, bundleOf floats decodeOther, rfl, .get, ?_⟩
      intro keyring register answer later holds answered
      obtain ⟨rfl, rfl | rfl⟩ := answered
      · exact ⟨none, register, rfl, ⟨rfl, .inl rfl⟩, holds⟩
      · exact ⟨register, register, bundleOf_of_holds holds, ⟨rfl, .inr rfl⟩, holds⟩
  | delete =>
      refine ⟨.deletePassword, _, rfl, .delete, ?_⟩
      intro keyring register answer later holds answered
      cases answer with
      | none =>
          obtain rfl : later = keyring := answered
          exact ⟨(), register, rfl, .inl rfl, holds⟩
      | some _ =>
          obtain rfl : later = none := answered
          exact ⟨(), none, rfl, .inr rfl, rfl⟩

variable {C A : Type} [DecidableEq C]

def savedBy : Event tokenSignature → Option StoredBundle
  | ⟨.save bundle, .ok _⟩ => some bundle
  | _ => none

/-- This bundle was saved last, if any has been saved. -/
def lastSaved (first : Option StoredBundle) (trace : Pool.Trace tokenSignature C) : Option StoredBundle :=
  trace.foldl (fun before entry => (savedBy entry.2).or before) first

omit [DecidableEq C] in
theorem lastSaved_concat (first : Option StoredBundle) (trace : Pool.Trace tokenSignature C)
    (entry : C × Event tokenSignature) :
    lastSaved first (trace ++ [entry]) = (savedBy entry.2).or (lastSaved first trace) := by
  rw [lastSaved, List.foldl_append]
  rfl

abbrev Register (A C : Type) := Pool tokenSignature TokenFault A (Option StoredBundle) C

variable {start last : Register A C} {others : List (Moment (Register A C) (C × Event tokenSignature))}

/-- A register that is not empty holds the bundle that was saved last. -/
theorem register_cases (run : Runs (Pool.Step RegisterResponds) start others last) :
    ∀ earlier moment later, others = earlier ++ moment :: later →
      moment.state.world = none ∨ moment.state.world = lastSaved start.world (Pool.traceOf earlier) := by
  refine (run.keeps_history (fun trace (pool : Register A C) =>
    pool.world = none ∨ pool.world = lastSaved start.world trace) ?_ [] (.inr rfl)).2
  intro trace pool entry next taken before
  obtain ⟨call, step, answer⟩ := entry
  have answered := taken.answered
  rw [lastSaved_concat]
  cases step with
  | get =>
      obtain ⟨same, _⟩ := answered
      rw [same]
      exact before
  | delete =>
      rcases answered with same | empty
      · rw [same]
        exact before
      · exact .inl empty
  | save bundle =>
      rcases answered with ⟨failed, same⟩ | ⟨succeeded, same⟩
      · dsimp only at failed
        subst failed
        rw [same]
        exact before
      · dsimp only at succeeded
        subst succeeded
        exact .inr same

/-- Every bundle that is returned is the one that was saved last. -/
theorem returned_bundle (run : Runs (Pool.Step RegisterResponds) start others last)
    {earlier later : Pool.Trace tokenSignature C} {call : C} {bundle : StoredBundle}
    (split : Pool.traceOf others = earlier ++ (call, ⟨TokenStep.get, some bundle⟩) :: later) :
    lastSaved start.world earlier = some bundle := by
  obtain ⟨front, rest, rfl, rfl, behind⟩ := List.map_eq_append_iff.mp split
  obtain ⟨moment, back, rfl, labelled, rfl⟩ := List.map_eq_cons_iff.mp behind
  obtain ⟨next, _, taken, _⟩ := run.split
  have answered := taken.answered
  rw [labelled] at answered
  obtain ⟨_, missing | held⟩ := answered
  · cases missing
  · rcases register_cases run front moment back rfl with empty | same
    · rw [empty] at held
      cases held
    · exact same.symm.trans held.symm

/-- The clients of the register that only read it. -/
def readAccessToken : TokenProgram (Option Json) := do
  return (← call (S := tokenSignature) TokenStep.get).map StoredBundle.accessToken

def readHasTokens : TokenProgram Bool := do
  return (← call (S := tokenSignature) TokenStep.get).isSome

theorem expand_readAccessToken :
    readAccessToken.expand (TokenStep.carry floats decodeOther) = getAccessToken floats decodeOther := rfl

theorem expand_readHasTokens :
    readHasTokens.expand (TokenStep.carry floats decodeOther) = hasTokens floats decodeOther := rfl

variable (floats decodeOther) in
/-- The clients use the texts of the keyring. -/
def onKeyring (keyring : Option String) (clients : C → TokenProgram A) :
    Pool keyringSignature TokenFault A (Option String) C where
  world := keyring
  program call := (clients call).expand (TokenStep.carry floats decodeOther)

/-- In every interleaving of clients, the keyring serves as a register of bundles, and it returns what was saved last. -/
theorem keyring_register (clients : C → TokenProgram A) (writes : ∀ call, (clients call).Within TokenStep.Writes)
    {keyring : Option String} {register : Option StoredBundle} (holds : Holds floats decodeOther keyring register)
    {moments : List (Moment (Pool keyringSignature TokenFault A (Option String) C) (C × Event keyringSignature))}
    {final : Pool keyringSignature TokenFault A (Option String) C}
    (run : Runs (Pool.Step KeyringResponds) (onKeyring floats decodeOther keyring clients) moments final) :
    ∃ others last, Runs (Pool.Step RegisterResponds) ⟨register, clients⟩ others last ∧
      List.Forall₂ (fun entry below =>
        entry.1 = below.1 ∧ Performs floats decodeOther entry.2.operation below.2.operation)
        (Pool.traceOf others) (Pool.traceOf moments) ∧
      (∀ call, final.program call = (last.program call).expand (TokenStep.carry floats decodeOther)) ∧
      Holds floats decodeOther final.world last.world ∧
      ∀ earlier call bundle later,
        Pool.traceOf others = earlier ++ (call, ⟨TokenStep.get, some bundle⟩) :: later →
          lastSaved register earlier = some bundle := by
  let upper : Register A C := ⟨register, clients⟩
  obtain ⟨others, last, above, calls, ended, stands⟩ :=
    Pool.exists_runs_of_expanded (fun step => carries step) run (fun call => (rfl : _ = (upper.program call).expand _))
      writes holds
  exact ⟨others, last, above, calls, ended, stands,
    fun earlier call bundle later split => returned_bundle above split⟩

end Register

section Samples

def exampleBundle : StoredBundle where
  accessToken := .string "a1"
  refreshToken := .string "r1"
  expiresAt := .number 300
  refreshExpiresAt := .number 1800

theorem written_exampleBundle : exampleBundle.Written := by
  unfold StoredBundle.Written
  decide +kernel

/-- One client saves a bundle and reads it back, while the other one reads. -/
def twoClients : Bool → TokenProgram (Option Json)
  | true => do
      let _ ← call (S := tokenSignature) (TokenStep.save exampleBundle)
      readAccessToken
  | false => readAccessToken

theorem writes_twoClients (client : Bool) : (twoClients client).Within TokenStep.Writes := by
  cases client with
  | true => exact ⟨written_exampleBundle, fun _ => ⟨trivial, fun _ => trivial⟩⟩
  | false => exact ⟨trivial, fun _ => trivial⟩

def respond : (step : KeyringStep) → Option String → step.Answer × Option String
  | .getPassword, keyring => (some keyring, keyring)
  | .setPassword text, _ => (some (), some text)
  | .deletePassword, _ => (some (), none)

theorem responds_respond (step : KeyringStep) (keyring : Option String) :
    KeyringResponds step keyring (respond step keyring).1 (respond step keyring).2 := by
  cases step with
  | getPassword => exact ⟨rfl, .inr rfl⟩
  | setPassword text => rfl
  | deletePassword => rfl

abbrev Clients := Pool keyringSignature TokenFault (Option Json) (Option String) Bool

def emptyKeyring : Clients :=
  onKeyring bitTexts (fun _ => none) none twoClients

@[irreducible] def alternating : List (Moment Clients (Bool × Event keyringSignature)) × Clients :=
  Pool.record (S := keyringSignature) respond emptyKeyring [true, false, true]

theorem keyring_register_twoClients : ∃ others last,
    Runs (Pool.Step RegisterResponds) (⟨none, twoClients⟩ : Register (Option Json) Bool) others last ∧
      Holds bitTexts (fun _ => none) alternating.2.world last.world := by
  have run : Runs (Pool.Step KeyringResponds) emptyKeyring alternating.1 alternating.2 := by
    rw [alternating]
    exact Pool.runs_record (S := keyringSignature) respond responds_respond emptyKeyring [true, false, true]
  have empty : Holds bitTexts (fun _ => none) none none := rfl
  obtain ⟨others, last, above, rest⟩ := keyring_register twoClients writes_twoClients empty run
  exact ⟨others, last, above, rest.2.2.1⟩

end Samples

end Pxtly.Cli.Keyring
