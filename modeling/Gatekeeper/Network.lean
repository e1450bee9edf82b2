import Gatekeeper.Json.Record

/-!
# `Gatekeeper.Network`: the network a caller works on
-/

set_option autoImplicit false

namespace Gatekeeper

/-- A network, by the address of its provider and its chain. -/
structure Network where
  url : String
  chainId : UInt64
  deriving DecidableEq, Repr, Inhabited

/-- A network is an object of its two parts. -/
def Network.form : Json.Form Network :=
  .record "Network"
    (.cons (.required "url" .text) <| .cons (.required "chain_id" .word64) .nil)
    (fun (url, chainId, ()) => ⟨url, chainId⟩)
    (fun network => (network.url, network.chainId, ()))

end Gatekeeper
