/-
This file gives the wallet that the Fabric client takes its identities from, and the one client of a process.
-/

import Pxtly.Foundation.JsonReader
import Pxtly.Foundation.Python
import Pxtly.Foundation.SharedObjects

namespace Pxtly.Fabric

open Foundation Program

/-- These settings decide where the identities are. -/
structure WalletSettings where
  environment : String := "development"
  fabricWalletPath : String

structure Identity where
  label : String
  certPem : String
  mspID : String
  deriving DecidableEq

/-- The labels are the keys of a dictionary. -/
structure FabricWallet where
  identities : List Identity := []
  deriving DecidableEq

/-- A new label comes last, and an old one keeps its place. -/
def FabricWallet.put (wallet : FabricWallet) (identity : Identity) : FabricWallet :=
  if wallet.identities.any fun known => known.label = identity.label then
    ⟨wallet.identities.map fun known => if known.label = identity.label then identity else known⟩
  else ⟨wallet.identities ++ [identity]⟩

/-- An absolute path is a list of names behind the root. -/
abbrev FilePath := List String

def FilePath.text (path : FilePath) : String := "/" ++ "/".intercalate path

/-- Instants count microseconds in UTC. -/
structure Certificate where
  notBefore : Int
  notAfter : Int
  commonNames : List String

/-- A library raises exceptions of its own, and their texts are kept. -/
inductive WalletFault where
  | valueError (message : String)
  | permissionError (message : String)
  | runtimeError (message : String)
  | typeError
  | raised (exception : String)
  deriving DecidableEq

/-- The wallet works on a file system, a clock and a vault. -/
inductive WalletStep where
  | isAuthenticated
  | resolve (path : String)
  | isFile (path : FilePath)
  | pathExists (path : FilePath)
  | readText (path : FilePath)
  | now
  | createOrUpdateSecret (label privateKeyPem : String)

abbrev WalletStep.Answer : WalletStep → Type
  | .isAuthenticated => Except String Bool
  | .resolve _ => Except WalletFault FilePath
  | .isFile _ => Bool
  | .pathExists _ => Except WalletFault Bool
  | .readText _ => Except WalletFault String
  | .now => Int
  | .createOrUpdateSecret .. => Except String Unit

abbrev walletSignature : Signature := ⟨WalletStep, WalletStep.Answer⟩

abbrev WalletEvent := Event walletSignature

abbrev WalletProgram (A : Type) := Program walletSignature WalletFault A

/-- These functions of libraries depend on their arguments only. -/
structure WalletPlatform where
  fixtures : FilePath
  readFloat : String → Float
  str : Json → String
  loadCertificate : String → Except String Certificate

section Initialization

variable (platform : WalletPlatform) (settings : WalletSettings)

def resolve (path : String) : WalletProgram FilePath := do
  lift (← call (S := walletSignature) (.resolve path))

def pathExists (path : FilePath) : WalletProgram Bool := do
  lift (← call (S := walletSignature) (.pathExists path))

def readText (path : FilePath) : WalletProgram String := do
  lift (← call (S := walletSignature) (.readText path))

def validateCertificate (certPem : String) : WalletProgram Unit :=
  match platform.loadCertificate certPem with
  | .error exception => .raise (.raised exception)
  | .ok cert => do
      let now ← call (S := walletSignature) .now
      if now < cert.notBefore ∨ cert.notAfter < now then
        .raise (.valueError "Certificate is expired or not yet valid systematically.")
      else if cert.commonNames.headD "" = "" then
        .raise (.valueError "Certificate Common Name structural definitions distinctly empty.")
      else return ()

/-- Only in production an identity needs its key in the vault. -/
def putIdentity (wallet : FabricWallet) (label certPem privateKeyPem mspID : String) : WalletProgram FabricWallet := do
  validateCertificate platform certPem
  match ← call (S := walletSignature) (.createOrUpdateSecret label privateKeyPem) with
  | .ok () => return wallet.put ⟨label, certPem, mspID⟩
  | .error exception =>
      if settings.environment = "production" then
        .raise (.runtimeError s!"Vault connectivity critically missing: {exception}")
      else return wallet.put ⟨label, certPem, mspID⟩

def targets : List String := ["admin@bank01", "admin@reg01-regulateur"]

/-- The metadata may be any JSON value; `in` takes an array and a text too, and `[]` does not. -/
def metadataEntry (metadata : Json) (target : String) : Except WalletFault (Option Json) :=
  match metadata with
  | .object members => .ok (dictGet members target)
  | .array items =>
      if items.any fun | .string text => text = target | _ => false then .error .typeError else .ok none
  | .string text => if target.toList <:+: text.toList then .error .typeError else .ok none
  | _ => .error .typeError

def entryText (info : List (String × Json)) (name : String) : String :=
  platform.str ((dictGet info name).getD (.string ""))

/-- The pair is passed over when one of its files is missing. -/
def initializePair (baseDir : FilePath) (wallet : FabricWallet) (target mspID : String) (certPath keyPath : FilePath) :
    WalletProgram FabricWallet := do
  if baseDir.isPrefixOf certPath && baseDir.isPrefixOf keyPath then
    if ← pathExists certPath then
      if ← pathExists keyPath then
        let certPem ← readText certPath
        let privateKeyPem ← readText keyPath
        putIdentity platform settings wallet target certPem privateKeyPem mspID
      else return wallet
    else return wallet
  else .raise (.permissionError "Path traversal bypass intercepted explicitly bounding limits natively.")

/-- An entry that is no object counts as absent. -/
def initializeTarget (baseDir : FilePath) (metadata : Json) (wallet : FabricWallet) (target : String) :
    WalletProgram FabricWallet := do
  match ← lift (metadataEntry metadata target) with
  | some (.object info) =>
      let certPath ← resolve (entryText platform info "cert_path")
      let keyPath ← resolve (entryText platform info "key_path")
      initializePair platform settings baseDir wallet target (entryText platform info "msp_id") certPath keyPath
  | _ => return wallet

def resolveBaseDir : WalletProgram FilePath := do
  if settings.environment = "test" then return platform.fixtures
  else
    let path ← resolve settings.fabricWalletPath
    return path.dropLast

def initializeBelow (walletPath baseDir : FilePath) : WalletProgram FabricWallet := do
  if ← call (S := walletSignature) (.isFile walletPath) then
    let text ← readText walletPath
    match loads platform.readFloat text.toList with
    | none => .raise (.raised "JSONDecodeError")
    | some metadata => targets.foldlM (initializeTarget platform settings baseDir metadata) {}
  else .raise (.valueError s!"Wallet path {walletPath.text} critically absent disk physically.")

def initializeFromMetadata : WalletProgram FabricWallet := do
  let walletPath ← resolve settings.fabricWalletPath
  let baseDir ← resolveBaseDir platform settings
  initializeBelow platform settings walletPath baseDir

/-- Whatever the vault says about the token, the constructor goes on. -/
def fabricWallet : WalletProgram FabricWallet := do
  let _ ← call (S := walletSignature) .isAuthenticated
  initializeFromMetadata platform settings

end Initialization

section Confinement

variable (platform : WalletPlatform) (settings : WalletSettings)

/-- Neither files nor the vault are touched. -/
def WalletStep.quiet : WalletStep → Bool
  | .readText _ | .createOrUpdateSecret .. => false
  | _ => true

/-- Files are read below one directory, apart from the metadata, and the vault is given texts of such files. -/
structure Confined (walletPath baseDir : FilePath) (events : List WalletEvent) : Prop where
  metadata : ⟨.resolve settings.fabricWalletPath, .ok walletPath⟩ ∈ events
  directory : (settings.environment = "test" ∧ baseDir = platform.fixtures) ∨
    ∃ path, ⟨.resolve settings.fabricWalletPath, .ok path⟩ ∈ events ∧ baseDir = path.dropLast
  reads : ∀ path answer, ⟨.readText path, answer⟩ ∈ events → path = walletPath ∨ baseDir <+: path
  secrets : ∀ label key answer, ⟨.createOrUpdateSecret label key, answer⟩ ∈ events →
    label ∈ targets ∧ ∃ path, baseDir <+: path ∧ ⟨.readText path, .ok key⟩ ∈ events

/-- An identity has a valid certificate from such a file, and in production its key is in the vault. -/
structure Backed (baseDir : FilePath) (events : List WalletEvent) (identity : Identity) : Prop where
  label : identity.label ∈ targets
  certificate : ∃ path, baseDir <+: path ∧ ⟨.readText path, .ok identity.certPem⟩ ∈ events
  valid : ∃ cert now, platform.loadCertificate identity.certPem = .ok cert ∧ ⟨.now, now⟩ ∈ events ∧
    cert.notBefore ≤ now ∧ now ≤ cert.notAfter ∧ cert.commonNames.headD "" ≠ ""
  secret : settings.environment = "production" → ∃ path key, baseDir <+: path ∧ ⟨.readText path, .ok key⟩ ∈ events ∧
    ⟨.createOrUpdateSecret identity.label key, .ok ()⟩ ∈ events

structure Settled (walletPath baseDir : FilePath) (events : List WalletEvent)
    (outcome : Except WalletFault FabricWallet) : Prop where
  confined : Confined platform settings walletPath baseDir events
  backed : ∀ wallet, outcome = .ok wallet → ∀ identity ∈ wallet.identities,
    Backed platform settings baseDir events identity

variable {platform settings} {walletPath baseDir : FilePath} {events : List WalletEvent}
  {outcome : Except WalletFault FabricWallet} {wallet : FabricWallet} {identity : Identity}

theorem Backed.later (backed : Backed platform settings baseDir events identity) (event : WalletEvent) :
    Backed platform settings baseDir (events ++ [event]) identity := by
  obtain ⟨path, below, read⟩ := backed.certificate
  obtain ⟨cert, now, loaded, told, within⟩ := backed.valid
  refine ⟨backed.label, ⟨path, below, List.mem_append_left _ read⟩,
    ⟨cert, now, loaded, List.mem_append_left _ told, within⟩, fun production => ?_⟩
  obtain ⟨path, key, below, read, stored⟩ := backed.secret production
  exact ⟨path, key, below, List.mem_append_left _ read, List.mem_append_left _ stored⟩

/-- An event keeps the confinement where it reads below the directory, and where it stores what was read there. -/
theorem Confined.later (confined : Confined platform settings walletPath baseDir events) (event : WalletEvent)
    (reads : ∀ path answer, event = ⟨.readText path, answer⟩ → path = walletPath ∨ baseDir <+: path)
    (secrets : ∀ label key answer, event = ⟨.createOrUpdateSecret label key, answer⟩ →
      label ∈ targets ∧ ∃ path, baseDir <+: path ∧ ⟨.readText path, .ok key⟩ ∈ events) :
    Confined platform settings walletPath baseDir (events ++ [event]) where
  metadata := List.mem_append_left _ confined.metadata
  directory := by
    rcases confined.directory with test | ⟨path, resolved, same⟩
    · exact .inl test
    · exact .inr ⟨path, List.mem_append_left _ resolved, same⟩
  reads path answer member := by
    rcases List.mem_append.mp member with earlier | last
    · exact confined.reads path answer earlier
    · exact reads path answer (List.mem_singleton.mp last).symm
  secrets label key answer member := by
    have known : label ∈ targets ∧ ∃ path, baseDir <+: path ∧ ⟨.readText path, .ok key⟩ ∈ events := by
      rcases List.mem_append.mp member with earlier | last
      · exact confined.secrets label key answer earlier
      · exact secrets label key answer (List.mem_singleton.mp last).symm
    obtain ⟨legal, path, below, read⟩ := known
    exact ⟨legal, path, below, List.mem_append_left _ read⟩

theorem Settled.later (settled : Settled platform settings walletPath baseDir events outcome) (event : WalletEvent)
    (reads : ∀ path answer, event = ⟨.readText path, answer⟩ → path = walletPath ∨ baseDir <+: path)
    (secrets : ∀ label key answer, event = ⟨.createOrUpdateSecret label key, answer⟩ →
      label ∈ targets ∧ ∃ path, baseDir <+: path ∧ ⟨.readText path, .ok key⟩ ∈ events) :
    Settled platform settings walletPath baseDir (events ++ [event]) outcome :=
  ⟨settled.confined.later event reads secrets, fun wallet ended identity member =>
    (settled.backed wallet ended identity member).later event⟩

theorem Settled.quiet (settled : Settled platform settings walletPath baseDir events outcome) (event : WalletEvent)
    (quiet : event.operation.quiet = true) :
    Settled platform settings walletPath baseDir (events ++ [event]) outcome := by
  refine settled.later event ?_ ?_
  · rintro path answer rfl
    cases quiet
  · rintro label key answer rfl
    cases quiet

theorem Settled.fault (settled : Settled platform settings walletPath baseDir events outcome) (fault : WalletFault) :
    Settled platform settings walletPath baseDir events (.error fault) := ⟨settled.confined, nofun⟩

theorem Settled.put (settled : Settled platform settings walletPath baseDir events (.ok wallet))
    (backed : Backed platform settings baseDir events identity) :
    Settled platform settings walletPath baseDir events (.ok (wallet.put identity)) := by
  refine ⟨settled.confined, fun last same other member => ?_⟩
  obtain rfl := Except.ok.inj same
  unfold FabricWallet.put at member
  split at member
  · obtain ⟨known, listed, rfl⟩ := List.mem_map.mp member
    split
    · exact backed
    · exact settled.backed wallet rfl known listed
  · rcases List.mem_append.mp member with known | last
    · exact settled.backed wallet rfl other known
    · rwa [List.mem_singleton.mp last]

/-- A valid certificate is known behind the reading of the clock. -/
theorem guarantees_validateCertificate (settled : Settled platform settings walletPath baseDir events (.ok wallet))
    (certPem : String) :
    (validateCertificate platform certPem).Guarantees (fun later outcome => (∃ more, later = events ++ more) ∧
      Settled platform settings walletPath baseDir later (.ok wallet) ∧
        (outcome = .ok () → ∃ cert now, platform.loadCertificate certPem = .ok cert ∧ ⟨.now, now⟩ ∈ later ∧
          cert.notBefore ≤ now ∧ now ≤ cert.notAfter ∧ cert.commonNames.headD "" ≠ "")) events := by
  unfold validateCertificate
  cases loaded : platform.loadCertificate certPem with
  | error exception => exact ⟨⟨[], (List.append_nil _).symm⟩, settled, fun same => by cases same⟩
  | ok cert =>
      intro now
      have told := settled.quiet ⟨.now, now⟩ rfl
      have member : (⟨.now, now⟩ : WalletEvent) ∈ events ++ [⟨.now, now⟩] :=
        List.mem_append_right _ (List.mem_singleton_self _)
      by_cases expired : now < cert.notBefore ∨ cert.notAfter < now
      · simp only [Program.bind, expired, if_true]
        exact ⟨⟨_, rfl⟩, told, fun same => by cases same⟩
      · by_cases unnamed : cert.commonNames.headD "" = ""
        · simp only [Program.bind, expired, unnamed, if_true, if_false]
          exact ⟨⟨_, rfl⟩, told, fun same => by cases same⟩
        · simp only [Program.bind, expired, unnamed, if_false]
          obtain ⟨begun, lasting⟩ := not_or.mp expired
          exact ⟨⟨_, rfl⟩, told, fun _ => ⟨cert, now, rfl, member, Int.not_lt.mp begun, Int.not_lt.mp lasting, unnamed⟩⟩

theorem guarantees_putIdentity (settled : Settled platform settings walletPath baseDir events (.ok wallet))
    {label certPem privateKeyPem : String} (mspID : String) (legal : label ∈ targets) {certPath keyPath : FilePath}
    (certBelow : baseDir <+: certPath) (keyBelow : baseDir <+: keyPath)
    (certRead : ⟨.readText certPath, .ok certPem⟩ ∈ events) (keyRead : ⟨.readText keyPath, .ok privateKeyPem⟩ ∈ events) :
    (putIdentity platform settings wallet label certPem privateKeyPem mspID).Guarantees
      (Settled platform settings walletPath baseDir) events := by
  refine Guarantees.bind ((guarantees_validateCertificate settled certPem).mono ?_)
  rintro later outcome ⟨⟨more, rfl⟩, told, checked⟩
  cases outcome with
  | error fault => exact told.fault fault
  | ok =>
      intro answer
      have keyKnown := List.mem_append_left more keyRead
      have stored := told.later ⟨.createOrUpdateSecret label privateKeyPem, answer⟩ nofun (by
        rintro _ _ _ same
        cases same
        exact ⟨legal, keyPath, keyBelow, keyKnown⟩)
      obtain ⟨cert, now, loaded, clock, valid⟩ := checked rfl
      have backed (secret : settings.environment = "production" → answer = .ok ()) : Backed platform settings baseDir
          (events ++ more ++ [⟨.createOrUpdateSecret label privateKeyPem, answer⟩]) ⟨label, certPem, mspID⟩ := by
        refine ⟨legal, ⟨certPath, certBelow, List.mem_append_left _ (List.mem_append_left _ certRead)⟩,
          ⟨cert, now, loaded, List.mem_append_left _ clock, valid⟩, fun production => ?_⟩
        refine ⟨keyPath, privateKeyPem, keyBelow, List.mem_append_left _ keyKnown, ?_⟩
        rw [← secret production]
        exact List.mem_append_right _ (List.mem_singleton_self _)
      cases answer with
      | ok => exact stored.put (backed fun _ => rfl)
      | error exception =>
          by_cases production : settings.environment = "production"
          · simp only [Program.bind, production, if_true]
            exact stored.fault _
          · simp only [Program.bind, production, if_false]
            exact stored.put (backed fun same => absurd same production)

/-- A program that asks goes on with the value of the answer or fails with its fault. -/
theorem guarantees_ask {A : Type} {goal : List WalletEvent → Except WalletFault FabricWallet → Prop} (step : WalletStep)
    (read : step.Answer → Except WalletFault A) (next : A → WalletProgram FabricWallet) {past : List WalletEvent}
    (each : ∀ answer, andThen next goal (past ++ [⟨step, answer⟩]) (read answer)) :
    ((call (S := walletSignature) step >>= fun answer => lift (read answer)) >>= next).Guarantees goal past := by
  intro answer
  have reached := each answer
  change Guarantees goal (lift (read answer) >>= next) _
  cases value : read answer with
  | ok value =>
      rw [value] at reached
      exact reached
  | error fault =>
      rw [value] at reached
      exact reached

theorem guarantees_initializePair (settled : Settled platform settings walletPath baseDir events (.ok wallet))
    {target : String} (legal : target ∈ targets) (mspID : String) (certPath keyPath : FilePath) :
    (initializePair platform settings baseDir wallet target mspID certPath keyPath).Guarantees
      (Settled platform settings walletPath baseDir) events := by
  unfold initializePair
  split
  case isFalse => exact settled.fault _
  case isTrue within =>
    rw [Bool.and_eq_true, List.isPrefixOf_iff_prefix, List.isPrefixOf_iff_prefix] at within
    refine guarantees_ask (.pathExists certPath) id _ fun certExists => ?_
    have first := settled.quiet ⟨.pathExists certPath, certExists⟩ rfl
    match certExists with
    | .error fault => exact first.fault fault
    | .ok false => exact first
    | .ok true =>
        refine guarantees_ask (.pathExists keyPath) id _ fun keyExists => ?_
        have second := first.quiet ⟨.pathExists keyPath, keyExists⟩ rfl
        match keyExists with
        | .error fault => exact second.fault fault
        | .ok false => exact second
        | .ok true =>
            refine guarantees_ask (.readText certPath) id _ fun certPem => ?_
            have third := second.later ⟨.readText certPath, certPem⟩ (by
              rintro _ _ same
              cases same
              exact .inr within.1) nofun
            cases certPem with
            | error fault => exact third.fault fault
            | ok certPem =>
                refine guarantees_ask (.readText keyPath) id _ fun privateKeyPem => ?_
                have fourth := third.later ⟨.readText keyPath, privateKeyPem⟩ (by
                  rintro _ _ same
                  cases same
                  exact .inr within.2) nofun
                cases privateKeyPem with
                | error fault => exact fourth.fault fault
                | ok privateKeyPem =>
                    exact guarantees_putIdentity fourth mspID legal within.1 within.2
                      (List.mem_append_left _ (List.mem_append_right _ (List.mem_singleton_self _)))
                      (List.mem_append_right _ (List.mem_singleton_self _))

theorem guarantees_initializeTarget (metadata : Json) {target : String} (legal : target ∈ targets)
    (settled : Settled platform settings walletPath baseDir events (.ok wallet)) :
    (initializeTarget platform settings baseDir metadata wallet target).Guarantees
      (Settled platform settings walletPath baseDir) events := by
  unfold initializeTarget
  cases entry : metadataEntry metadata target with
  | error fault => exact settled.fault fault
  | ok found =>
      rw [lift_ok_bind]
      cases found with
      | none => exact settled
      | some value =>
          cases value with
          | object info =>
              refine guarantees_ask (.resolve _) id _ fun certPath => ?_
              have first := settled.quiet ⟨.resolve (entryText platform info "cert_path"), certPath⟩ rfl
              cases certPath with
              | error fault => exact first.fault fault
              | ok certPath =>
                  refine guarantees_ask (.resolve _) id _ fun keyPath => ?_
                  have second := first.quiet ⟨.resolve (entryText platform info "key_path"), keyPath⟩ rfl
                  cases keyPath with
                  | error fault => exact second.fault fault
                  | ok keyPath => exact guarantees_initializePair second legal _ certPath keyPath
          | null => exact settled
          | bool flag => exact settled
          | integer number => exact settled
          | number number => exact settled
          | string text => exact settled
          | array items => exact settled

variable (platform settings) in
/-- The construction has failed before it touched a file, or it keeps to the directory of the metadata. -/
def Contained (events : List WalletEvent) (outcome : Except WalletFault FabricWallet) : Prop :=
  ((∀ event ∈ events, event.operation.quiet = true) ∧ ∃ fault, outcome = .error fault) ∨
    ∃ walletPath baseDir, Settled platform settings walletPath baseDir events outcome

theorem contained_of_quiet (quiet : ∀ event ∈ events, event.operation.quiet = true) (fault : WalletFault) :
    Contained platform settings events (.error fault) := .inl ⟨quiet, fault, rfl⟩

/-- Behind the check of the metadata file, the targets are gone through one by one. -/
theorem guarantees_metadata (quiet : ∀ event ∈ events, event.operation.quiet = true)
    (metadata : ⟨.resolve settings.fabricWalletPath, .ok walletPath⟩ ∈ events)
    (directory : (settings.environment = "test" ∧ baseDir = platform.fixtures) ∨
      ∃ path, ⟨.resolve settings.fabricWalletPath, .ok path⟩ ∈ events ∧ baseDir = path.dropLast) :
    (readText walletPath >>= fun text => match loads platform.readFloat text.toList with
      | none => .raise (.raised "JSONDecodeError")
      | some metadata => targets.foldlM (initializeTarget platform settings baseDir metadata) {}).Guarantees
      (Contained platform settings) events := by
  have confined : Confined platform settings walletPath baseDir events := by
    refine ⟨metadata, directory, fun path answer member => ?_, fun label key answer member => ?_⟩
    · cases quiet _ member
    · cases quiet _ member
  have empty : Settled platform settings walletPath baseDir events (.ok {}) := by
    refine ⟨confined, fun wallet same identity member => ?_⟩
    obtain rfl := Except.ok.inj same
    cases member
  refine Guarantees.mono ?_ fun later outcome (settled : Settled platform settings walletPath baseDir later outcome) =>
    .inr ⟨walletPath, baseDir, settled⟩
  refine guarantees_ask (.readText walletPath) id _ fun text => ?_
  have read := empty.later ⟨.readText walletPath, text⟩ (by
    rintro _ _ same
    cases same
    exact .inl rfl) nofun
  cases text with
  | error fault => exact read.fault fault
  | ok text =>
      change Guarantees _ (match loads platform.readFloat text.toList with
        | none => .raise (.raised "JSONDecodeError")
        | some metadata => targets.foldlM (initializeTarget platform settings baseDir metadata) {}) _
      cases loads platform.readFloat text.toList with
      | none => exact read.fault _
      | some metadata =>
          exact guarantees_foldlM targets (fun wallet past target legal settled =>
            guarantees_initializeTarget metadata legal settled) read

theorem guarantees_fabricWallet : (fabricWallet platform settings).Guarantees (Contained platform settings) [] := by
  intro authenticated
  refine guarantees_ask (.resolve settings.fabricWalletPath) id _ fun walletPath => ?_
  cases walletPath with
  | error fault => exact contained_of_quiet (by simp [WalletStep.quiet]) fault
  | ok walletPath =>
      have behind (baseDir : FilePath) (past : List WalletEvent) (quiet : ∀ event ∈ past, event.operation.quiet = true)
          (metadata : ⟨.resolve settings.fabricWalletPath, .ok walletPath⟩ ∈ past)
          (directory : (settings.environment = "test" ∧ baseDir = platform.fixtures) ∨
            ∃ path, ⟨.resolve settings.fabricWalletPath, .ok path⟩ ∈ past ∧ baseDir = path.dropLast) :
          (initializeBelow platform settings walletPath baseDir).Guarantees (Contained platform settings) past := by
        intro present
        have quietly : ∀ event ∈ past ++ [⟨.isFile walletPath, present⟩], event.operation.quiet = true := by
          intro event member
          rcases List.mem_append.mp member with earlier | last
          · exact quiet event earlier
          · rw [List.mem_singleton.mp last]
            rfl
        cases present with
        | false => exact contained_of_quiet quietly _
        | true =>
            refine guarantees_metadata quietly (List.mem_append_left _ metadata) ?_
            rcases directory with test | ⟨path, resolved, same⟩
            · exact .inl test
            · exact .inr ⟨path, List.mem_append_left _ resolved, same⟩
      change Guarantees _ (resolveBaseDir platform settings >>= initializeBelow platform settings walletPath) _
      by_cases test : settings.environment = "test"
      · have base : resolveBaseDir platform settings = return platform.fixtures := if_pos test
        rw [base]
        exact behind _ _ (by simp [WalletStep.quiet]) (by simp) (.inl ⟨test, rfl⟩)
      · have base : resolveBaseDir platform settings =
            (resolve settings.fabricWalletPath >>= fun path => return path.dropLast) := if_neg test
        rw [base, bind_assoc]
        refine guarantees_ask (.resolve settings.fabricWalletPath) id _ fun path => ?_
        cases path with
        | error fault => exact contained_of_quiet (by simp [WalletStep.quiet]) fault
        | ok path => exact behind _ _ (by simp [WalletStep.quiet]) (by simp) (.inr ⟨path, by simp, rfl⟩)

/-- Whatever files, clock and vault answer, the wallet reads below one directory only, it stores nothing but texts from
there, and each identity that it then has is backed by such files. -/
theorem wallet_contained (executed : Executes (fabricWallet platform settings) events outcome) :
    Contained platform settings events outcome := by
  have begins : (fabricWallet platform settings).Guarantees (Contained platform settings) [] := guarantees_fabricWallet
  exact begins.of_executes executed

end Confinement

section Client

open SharedObject (Creator World assignments creations getInstance kept_of_run owner)

/-- The client keeps its wallet; the rest of its constructor reads its configuration only. -/
def getFabric (platform : WalletPlatform) (settings : WalletSettings) :
    Creator walletSignature WalletFault FabricWallet (Option FabricWallet) :=
  getInstance (fabricWallet platform settings)

/-- A pool of calls works on the slot of the client, its lock and the world of the wallet. -/
abbrev Clients (E C : Type) :=
  Pool (SharedObject.signature walletSignature FabricWallet) WalletFault (Option FabricWallet) (World FabricWallet E) C

variable {platform : WalletPlatform} {settings : WalletSettings} {E C : Type} [DecidableEq C]
  {environs : (step : WalletStep) → E → step.Answer → E → Prop} {start final : Clients E C}
  {moments : List (Moment (Clients E C) (C × Event (SharedObject.signature walletSignature FabricWallet)))}

/-- In every interleaving of the calls for the client, all of them get the one client whose construction has ended, and its
wallet is a contained one; only the owner of the lock constructs, and only before there is a client; a call fails with the
fault of its own construction; and no call waits forever, as some call can go on. -/
theorem get_fabric_once (run : Runs (Pool.Step (SharedObject.Responds environs)) start moments final)
    (fresh : start.world.slot = none ∧ start.world.held = false)
    (programs : ∀ call, start.program call = getFabric platform settings)
    (total : ∀ step outside, ∃ answer later, environs step outside answer later) :
    (∀ call found, final.program call = .done found → ∃ wallet creator, found = some wallet ∧
      assignments (Pool.traceOf moments) = [wallet] ∧
      Contained platform settings (creations (Pool.traceOf moments) creator) (.ok wallet)) ∧
    (∀ call fault, final.program call = .raise fault →
      Executes (fabricWallet platform settings) (creations (Pool.traceOf moments) call) (.error fault)) ∧
    (∀ earlier moment later step, moments = earlier ++ moment :: later → moment.label.2.operation = .create step →
      owner (Pool.traceOf earlier) = some moment.label.1 ∧ assignments (Pool.traceOf earlier) = []) ∧
    ∀ call, (∀ found, final.program call ≠ .done found) → (∀ fault, final.program call ≠ .raise fault) →
      ∃ label next, Pool.Step (SharedObject.Responds environs) final label next := by
  obtain ⟨⟨phases, kept⟩, inside⟩ := kept_of_run run fresh programs
  refine ⟨fun call found ended => ?_, fun call fault => kept.failed, fun earlier moment later step split creates => ?_,
    fun call unended unfailed => kept.progress total ⟨unended, unfailed⟩⟩
  · obtain ⟨wallet, same, single⟩ := kept.found ended
    have member : wallet ∈ assignments (Pool.traceOf moments) := by
      rw [single]
      exact List.mem_singleton_self wallet
    obtain ⟨entry, listed, assigns⟩ := List.mem_filterMap.mp member
    exact ⟨wallet, entry.1, same, single,
      guarantees_fabricWallet.of_executes (kept.makers entry listed wallet assigns).1⟩
  · obtain ⟨phases, before⟩ := inside earlier moment later split
    obtain ⟨next, taken⟩ := run.taken moment (by
      rw [split]
      exact List.mem_append_right _ List.mem_cons_self)
    exact before.creates taken creates

end Client

section Samples

/-- The certificate of the bank is valid at the instant of one. -/
def bankPlatform : WalletPlatform where
  fixtures := []
  readFloat _ := 0
  str
    | .string text => text
    | _ => ""
  loadCertificate certPem := if certPem = "bank" then .ok ⟨0, 2, ["Admin"]⟩ else .error "ValueError"

def bankSettings : WalletSettings := { environment := "production", fabricWalletPath := "w/m" }

def bankMetadata : String :=
  "\x7b\"admin@bank01\":\x7b\"cert_path\":\"w/c\",\"key_path\":\"w/k\",\"msp_id\":\"B\"\x7d\x7d"

/-- All files lie in one directory, and the vault takes the key. -/
def bankRespond : (step : WalletStep) → Unit → step.Answer × Unit
  | .isAuthenticated, _ => (.ok true, ())
  | .resolve path, _ => (.ok (if path = "w/m" then ["w", "m"] else if path = "w/c" then ["w", "c"] else ["w", "k"]), ())
  | .isFile _, _ => (true, ())
  | .pathExists _, _ => (.ok true, ())
  | .readText path, _ =>
      (.ok (if path = ["w", "m"] then bankMetadata else if path = ["w", "c"] then "bank" else "key"), ())
  | .now, _ => (1, ())
  | .createOrUpdateSecret .., _ => (.ok (), ())

theorem bankWallet_contained :
    Contained bankPlatform bankSettings
        ((fabricWallet bankPlatform bankSettings).transcript (S := walletSignature) bankRespond ())
        ((fabricWallet bankPlatform bankSettings).evaluate (S := walletSignature) bankRespond ()).1 ∧
      ((fabricWallet bankPlatform bankSettings).evaluate (S := walletSignature) bankRespond ()).1 =
        .ok ⟨[⟨"admin@bank01", "bank", "B"⟩]⟩ :=
  ⟨wallet_contained (executes_transcript (S := walletSignature) bankRespond (fabricWallet bankPlatform bankSettings) ()),
    by decide +kernel⟩

/-- Nothing but the calls works on the slot and the lock. -/
def sharedRespond : (operation : SharedObject.Operation walletSignature FabricWallet) →
    SharedObject.World FabricWallet Unit → operation.Answer × SharedObject.World FabricWallet Unit
  | .look, world => (world.slot, world)
  | .acquire, world => ((), { world with held := true })
  | .create step, world => ((bankRespond step world.outside).1, world)
  | .assign made, world => ((), { world with slot := some made })
  | .release, world => ((), { world with held := false })

def lockFree : SharedObject.Operation walletSignature FabricWallet → SharedObject.World FabricWallet Unit → Bool
  | .acquire, world => !world.held
  | _, _ => true

def bankEnvirons (step : WalletStep) (_ : Unit) (answer : step.Answer) (_ : Unit) : Prop := answer = (bankRespond step ()).1

theorem responds_sharedRespond (operation : SharedObject.Operation walletSignature FabricWallet)
    (world : SharedObject.World FabricWallet Unit) (free : lockFree operation world = true) :
    SharedObject.Responds bankEnvirons operation world (sharedRespond operation world).1
      (sharedRespond operation world).2 := by
  cases operation with
  | look => exact .look world
  | acquire => exact .acquire world (by simpa [lockFree] using free)
  | create step => exact .create world step _ () rfl
  | assign made => exact .assign world made
  | release => exact .release world

def bankClients : Clients Unit Bool := ⟨⟨none, false, ()⟩, fun _ => getFabric bankPlatform bankSettings⟩

/-- Both calls find the slot empty, and one of them waits for the lock meanwhile. -/
@[irreducible] def twoCalls :
    List (Moment (Clients Unit Bool) (Bool × Event (SharedObject.signature walletSignature FabricWallet))) ×
      Clients Unit Bool :=
  Pool.record (S := SharedObject.signature walletSignature FabricWallet) sharedRespond bankClients
    ([true, true, false] ++ List.replicate 17 true ++ List.replicate 4 false)

theorem runs_twoCalls : Runs (Pool.Step (SharedObject.Responds bankEnvirons)) bankClients twoCalls.1 twoCalls.2 := by
  unfold twoCalls
  exact Pool.runs_record_of (S := SharedObject.signature walletSignature FabricWallet) sharedRespond lockFree
    responds_sharedRespond _ _ (by decide +kernel)

theorem ends_twoCalls (call : Bool) :
    twoCalls.2.program call = .done (some ⟨[⟨"admin@bank01", "bank", "B"⟩]⟩) := by
  have value : (twoCalls.2.program call).value = some (some ⟨[⟨"admin@bank01", "bank", "B"⟩]⟩) := by
    unfold twoCalls
    cases call <;> decide +kernel
  cases program : twoCalls.2.program call with
  | done found =>
      rw [program] at value
      rw [Option.some.inj value]
  | raise fault =>
      rw [program] at value
      cases value
  | perform operation next =>
      rw [program] at value
      cases value

theorem get_fabric_once_twoCalls : ∃ wallet creator, wallet.identities = [⟨"admin@bank01", "bank", "B"⟩] ∧
    SharedObject.assignments (Pool.traceOf twoCalls.1) = [wallet] ∧
      Contained bankPlatform bankSettings (SharedObject.creations (Pool.traceOf twoCalls.1) creator) (.ok wallet) := by
  obtain ⟨found, _⟩ := get_fabric_once runs_twoCalls ⟨rfl, rfl⟩ (fun _ => rfl) fun step _ => ⟨_, (), rfl⟩
  obtain ⟨wallet, creator, same, single, contained⟩ := found true _ (ends_twoCalls true)
  obtain rfl := Option.some.inj same
  exact ⟨_, creator, rfl, single, contained⟩

end Samples

end Pxtly.Fabric
