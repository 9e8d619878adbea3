import Eth2Libp2p.PeerDB.PeerInfo

/-! # RPC errors and the penalties they carry

`handle_rpc_error` (`peer_manager/mod.rs`) maps an RPC error, with the protocol
it arose on and the direction of the request, to a penalty for the peer, or to
none (`rpcErrorAction`); the peer manager then reports the peer for it. The
protocols and the errors are defined outside the sources: they are kept as the
function's match names them, without the messages the errors carry.

A peer is banned outright (`PeerAction::Fatal`) exactly for a rejected or
malformed exchange, for answering our block request with
`ResourceUnavailable` (but not a blob or data column request by root, which is
retried), and for not supporting ping, metadata or status
(`rpcErrorAction_eq_fatal`).
-/

namespace Eth2Libp2p

/-- The RPC protocols (`Protocol`). -/
inductive Protocol where
  | status
  | goodbye
  | blocksByRange
  | blocksByRoot
  | blobsByRange
  | blobsByRoot
  | dataColumnsByRoot
  | dataColumnsByRange
  | ping
  | metaData
  | lightClientBootstrap
  | lightClientOptimisticUpdate
  | lightClientFinalityUpdate
  | lightClientUpdatesByRange
  deriving DecidableEq, Repr

/-- The codes of an RPC error response (`RpcErrorResponse`). -/
inductive RpcErrorResponse where
  | unknown
  | resourceUnavailable
  | serverError
  | invalidRequest
  | rateLimited
  | blobsNotFoundForBlock
  deriving DecidableEq, Repr

/-- The RPC errors `handle_rpc_error` tells apart (`RPCError`). -/
inductive RPCError where
  | incompleteStream
  | internalError
  | handlerRejected
  | invalidData
  | ioError
  | errorResponse (code : RpcErrorResponse)
  | sszReadError
  | sszWriteError
  | unsupportedProtocol
  | streamTimeout
  | negotiationTimeout
  | disconnected
  deriving DecidableEq, Repr

/-- The penalty `handle_rpc_error` gives for an error, `none` where it returns
without reporting the peer. -/
def rpcErrorAction (protocol : Protocol) (direction : ConnectionDirection) : RPCError → Option PeerAction
  | .incompleteStream => some .midToleranceError
  | .internalError => none
  | .handlerRejected => some .fatal
  | .invalidData => some .fatal
  | .ioError => some .highToleranceError
  | .errorResponse code =>
    match code with
    | .unknown => some .highToleranceError
    | .resourceUnavailable =>
      if protocol = .blobsByRoot ∨ protocol = .dataColumnsByRoot then none
      else
        match direction with
        | .outgoing => some .fatal
        | .incoming => none
    | .serverError => some .midToleranceError
    | .invalidRequest => some .lowToleranceError
    | .rateLimited =>
      match protocol with
      | .ping | .blocksByRange | .blocksByRoot | .blobsByRange => some .midToleranceError
      | .lightClientBootstrap | .lightClientOptimisticUpdate | .lightClientFinalityUpdate
        | .lightClientUpdatesByRange => none
      | .blobsByRoot | .dataColumnsByRoot | .dataColumnsByRange => some .midToleranceError
      | .goodbye | .metaData | .status => some .lowToleranceError
    | .blobsNotFoundForBlock => some .lowToleranceError
  | .sszReadError => some .fatal
  | .sszWriteError => some .lowToleranceError
  | .unsupportedProtocol =>
    match protocol with
    | .ping => some .fatal
    | .blocksByRange | .blocksByRoot | .blobsByRange | .blobsByRoot | .dataColumnsByRoot
      | .dataColumnsByRange | .goodbye | .lightClientBootstrap | .lightClientOptimisticUpdate
      | .lightClientFinalityUpdate | .lightClientUpdatesByRange => none
    | .metaData | .status => some .fatal
  | .streamTimeout =>
    match direction with
    | .incoming => none
    | .outgoing =>
      match protocol with
      | .ping => some .lowToleranceError
      | .blocksByRange | .blocksByRoot | .blobsByRange | .blobsByRoot | .dataColumnsByRoot
        | .dataColumnsByRange => some .midToleranceError
      | .lightClientBootstrap | .lightClientOptimisticUpdate | .lightClientFinalityUpdate
        | .lightClientUpdatesByRange | .goodbye | .metaData | .status => none
  | .negotiationTimeout => some .lowToleranceError
  | .disconnected => none

/-- The errors that ban a peer outright. -/
theorem rpcErrorAction_eq_fatal (protocol : Protocol) (direction : ConnectionDirection) (error : RPCError) :
    rpcErrorAction protocol direction error = some .fatal ↔
      error = .handlerRejected ∨ error = .invalidData ∨ error = .sszReadError ∨
        (error = .errorResponse .resourceUnavailable ∧ direction = .outgoing ∧
          protocol ≠ .blobsByRoot ∧ protocol ≠ .dataColumnsByRoot) ∨
        (error = .unsupportedProtocol ∧ (protocol = .ping ∨ protocol = .metaData ∨ protocol = .status)) := by
  cases error with
  | errorResponse code =>
    cases code
    case resourceUnavailable => cases protocol <;> cases direction <;> decide
    case rateLimited => cases protocol <;> simp [rpcErrorAction]
    all_goals simp [rpcErrorAction]
  | unsupportedProtocol => cases protocol <;> simp [rpcErrorAction]
  | streamTimeout => cases direction <;> (try cases protocol) <;> simp [rpcErrorAction]
  | _ => simp [rpcErrorAction]

end Eth2Libp2p
