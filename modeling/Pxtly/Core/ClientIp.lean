/-
This file gives the address of a client behind a proxy, and who decides on it.
-/

import Pxtly.Foundation.IpAddress
import Pxtly.Foundation.Python
import Pxtly.Foundation.Sha256

namespace Pxtly.Core

open Foundation

/-- The names of the headers are in lower case, as the server hands them over. -/
structure Request where
  client : Option String
  headers : List (String × String)

def parseNetworks (raw : String) : List IpNetwork :=
  ((raw.toList.splitOn ',').map strip).filterMap fun token =>
    if token = [] then none else ipNetwork (String.ofList token)

def defaultProxyNets : String := "127.0.0.0/8,10.0.0.0/8,172.16.0.0/12,192.168.0.0/16"

def peerInTrustedNets (peerIp : String) (nets : List IpNetwork) : Bool :=
  match ipAddress peerIp with
  | none => false
  | some address => nets.any (·.contains address)

/-- This is the leftmost entry of a list of addresses. -/
def firstEntry (forwarded : String) : String := String.ofList (strip ((forwarded.toList.splitOn ',').headD []))

def extractClientIp (nets : List IpNetwork) (request : Request) : String :=
  let peer := request.client.getD ""
  let direct := if peer = "" then "unknown" else peer
  if peer ≠ "" ∧ peerInTrustedNets peer nets then
    let forwarded := (request.headers.lookup "x-forwarded-for").getD ""
    if forwarded ≠ "" ∧ firstEntry forwarded ≠ "" then firstEntry forwarded
    else
      let realIp := (request.headers.lookup "x-real-ip").getD ""
      if realIp ≠ "" then String.ofList (strip realIp.toList) else direct
  else direct

/-- Audit entries carry this address. -/
def requestIp (ip : String) : String := if ip = "" then "internal" else ip

/-- The requests of one address and method are counted under this key. -/
def rateKey (ip method : String) : String :=
  "rate:" ++ String.ofList ((hex (sha256 (encode ip))).toList.take 16) ++ ":" ++ method

/-- A client sends these headers with its request, or leaves them out. -/
structure ClientContent where
  forwardedFor : Option String
  realIp : Option String

/-- The proxy appends the address from which the client connects. -/
def forwardRequest (proxy address : String) (others : List (String × String)) (content : ClientContent) : Request where
  client := some proxy
  headers :=
    ("x-forwarded-for", match content.forwardedFor with
      | none => address
      | some sent => sent ++ ", " ++ address) ::
    (content.realIp.toList.map fun sent => ("x-real-ip", sent)) ++ others

/-- The application takes two requests to come from one client. -/
structure SameClient (nets : List IpNetwork) (first second : Request) : Prop where
  address : extractClientIp nets first = extractClientIp nets second
  audit : requestIp (extractClientIp nets first) = requestIp (extractClientIp nets second)
  key : ∀ method, rateKey (extractClientIp nets first) method = rateKey (extractClientIp nets second) method

/-- What the client sends does not change who it is taken for. -/
def ChoosesNothing (nets : List IpNetwork) (proxy address : String) (others : List (String × String)) : Prop :=
  ∀ first second : ClientContent,
    SameClient nets (forwardRequest proxy address others first) (forwardRequest proxy address others second)

variable {nets : List IpNetwork} {proxy : String}

theorem ne_blank_of_trusted (trusted : peerInTrustedNets proxy nets = true) : proxy ≠ "" := by
  rintro rfl
  have unreadable : ipAddress "" = none := by decide +kernel
  rw [peerInTrustedNets, unreadable] at trusted
  cases trusted

theorem firstEntry_append {sent : String} (whole : ',' ∉ sent.toList) (plain : strip sent.toList = sent.toList)
    (rest : String) : firstEntry (sent ++ ", " ++ rest) = sent := by
  have parts : (sent ++ ", " ++ rest).toList = sent.toList ++ ',' :: (' ' :: rest.toList) := by
    simp [String.toList_append]
  rw [firstEntry, parts, List.splitOn_append_cons_self_of_not_mem whole, List.headD_cons, plain, String.ofList_toList]

/-- A client behind a trusted proxy passes for any address that it names first. -/
theorem extractClientIp_forwardRequest (trusted : peerInTrustedNets proxy nets = true) (address : String)
    (others : List (String × String)) {sent : String} (nonempty : sent ≠ "") (whole : ',' ∉ sent.toList)
    (plain : strip sent.toList = sent.toList) (realIp : Option String) :
    extractClientIp nets (forwardRequest proxy address others ⟨some sent, realIp⟩) = sent := by
  have entry := firstEntry_append whole plain address
  have forwarded : sent ++ ", " ++ address ≠ "" := by
    intro blank
    have first := congrArg String.toList blank
    simp [String.toList_append] at first
  have peer : (forwardRequest proxy address others ⟨some sent, realIp⟩).client.getD "" = proxy := rfl
  have header : ((forwardRequest proxy address others ⟨some sent, realIp⟩).headers.lookup "x-forwarded-for").getD "" =
      sent ++ ", " ++ address := rfl
  unfold extractClientIp
  rw [peer, header]
  dsimp only
  rw [if_pos ⟨ne_blank_of_trusted trusted, trusted⟩, entry, if_pos ⟨forwarded, nonempty⟩]

/-- Behind every trusted proxy, a client decides on the address that it is taken for. -/
theorem client_chooses_address (nets : List IpNetwork) (proxy address : String) (others : List (String × String))
    (trusted : peerInTrustedNets proxy nets = true) : ¬ ChoosesNothing nets proxy address others := by
  intro nothing
  have same := (nothing ⟨some "198.51.100.1", none⟩ ⟨some "198.51.100.2", none⟩).address
  rw [extractClientIp_forwardRequest trusted address others (by decide) (by decide) (by decide),
    extractClientIp_forwardRequest trusted address others (by decide) (by decide) (by decide)] at same
  exact absurd same (by decide)

theorem client_chooses_address_default :
    ¬ ChoosesNothing (parseNetworks defaultProxyNets) "10.0.0.2" "203.0.113.7" [] :=
  client_chooses_address _ _ _ _ (by decide +kernel)

/-- The same client is counted under two keys. -/
theorem client_changes_rateKey :
    ∃ first second : ClientContent,
      extractClientIp (parseNetworks defaultProxyNets) (forwardRequest "10.0.0.2" "203.0.113.7" [] first) = "198.51.100.1" ∧
      extractClientIp (parseNetworks defaultProxyNets) (forwardRequest "10.0.0.2" "203.0.113.7" [] second) = "198.51.100.2" ∧
      rateKey "198.51.100.1" "POST" ≠ rateKey "198.51.100.2" "POST" ∧
      ¬ ChoosesNothing (parseNetworks defaultProxyNets) "10.0.0.2" "203.0.113.7" [] := by
  have trusted : peerInTrustedNets "10.0.0.2" (parseNetworks defaultProxyNets) = true := by decide +kernel
  have chosen : ∀ sent : String, sent ≠ "" → ',' ∉ sent.toList → strip sent.toList = sent.toList →
      extractClientIp (parseNetworks defaultProxyNets)
        (forwardRequest "10.0.0.2" "203.0.113.7" [] ⟨some sent, none⟩) = sent :=
    fun sent nonempty whole plain => extractClientIp_forwardRequest trusted _ _ nonempty whole plain none
  have first := chosen "198.51.100.1" (by decide) (by decide) (by decide)
  have second := chosen "198.51.100.2" (by decide) (by decide) (by decide)
  refine ⟨⟨some "198.51.100.1", none⟩, ⟨some "198.51.100.2", none⟩, first, second, by decide +kernel, fun nothing => ?_⟩
  have same := (nothing ⟨some "198.51.100.1", none⟩ ⟨some "198.51.100.2", none⟩).address
  rw [first, second] at same
  exact absurd same (by decide)

end Pxtly.Core
