import Luagent.Lua
import Luagent.Transfer

/-! Dispatch of received frames (`protocol.c`). -/

namespace Luagent
open Foundation

/-- What follows a failed `lua_engine_dispatch`. -/
def handleOp (env : Env) (world : World) (reqId : UInt32) (payload : Bytes) : World × Bool :=
  let dispatched := luaEngineDispatch env world reqId payload
  if dispatched.2 then (dispatched.1, true)
  else
    let world := { dispatched.1 with link := diagCountProtocolError dispatched.1.link }
    (world.sendError env reqId "internal" (ascii "lua dispatch failed"), false)

/-- The second `switch` of `protocol_handle_control`, on the copied payload. -/
def handleText (env : Env) (world : World) (type : Option FrameType) (reqId : UInt32) (payload : Bytes) : World × Bool :=
  match type with
  | some .hello => world.sendText env .ack reqId (ascii "status=ok\nmessage=hello")
  | some .ping => world.sendText env .pong reqId (ascii "status=ok")
  | some .op => handleOp env world reqId payload
  | some .putBegin => transferHandlePutBegin env world reqId payload
  | some .getBegin => transferHandleGetBegin env world reqId payload
  | some .procSpawn => procHandleSpawn env world reqId payload
  | some .kill => procHandleKill env world reqId payload
  | _ =>
    let world := { world with link := diagCountProtocolError world.link }
    (world.sendError env reqId "bad_type" (ascii "unsupported frame type"), false)

def protocolHandleControl (env : Env) (world : World) (message : Message) : World × Bool :=
  match FrameType.ofCode message.type with
  | some .putChunk => transferHandlePutChunk env world message.reqId message.payload
  | some .putEnd => transferHandlePutEnd env world message.reqId
  | type =>
    if !env.alloc .payloadCopy then (world.sendError env message.reqId "internal" (ascii "out of memory"), false)
    else handleText env world type message.reqId (cstr message.payload)

end Luagent
