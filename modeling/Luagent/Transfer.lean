import Luagent.Session

/-! File transfers (`transfer.c`). A handler returns the world after it and
whether it returned 0. -/

namespace Luagent
open Foundation

def transferReset (transfer : TransferState) : TransferState :=
  { transfer with
    active := false, overwrite := false, mode := .none, reqId := 0, totalSize := 0, offset := 0
    lastProgressMs := 0, file := none, chunkSize := readChunk, path := none, tmpPath := none }

def transferAbort (env : Env) (fs : FileSystem) (transfer : TransferState) : FileSystem × TransferState :=
  let fs := match transfer.file with
    | some fd => (uvFsClose env fs fd).1
    | none => fs
  let fs := match transfer.tmpPath with
    | some tmpPath => uvFsUnlink env fs tmpPath
    | none => fs
  (fs, transferReset transfer)

namespace World

/-- `transfer_abort(&session->upload)`. -/
def abortUpload (world : World) (env : Env) : World :=
  { world with fs := (transferAbort env world.fs world.upload).1, upload := (transferAbort env world.fs world.upload).2 }

/-- `transfer_abort(&session->download)`. -/
def abortDownload (world : World) (env : Env) : World :=
  { world with
    fs := (transferAbort env world.fs world.download).1, download := (transferAbort env world.fs world.download).2 }

end World

/-- The timeout test of `transfer_check_timeout`. -/
def transferStalled (transfer : TransferState) (nowMs : Nat) : Bool :=
  transfer.active && transfer.lastProgressMs ≠ 0 && transferIdleMs ≤ elapsedMs nowMs transfer.lastProgressMs

def transferCheckTimeoutUpload (env : Env) (world : World) : World :=
  if transferStalled world.upload env.now then
    let reported := { world with link := diagCountTransferAbort world.link }
    (reported.sendError env world.upload.reqId "timeout" (ascii "transfer stalled")).abortUpload env
  else world

def transferCheckTimeoutDownload (env : Env) (world : World) : World :=
  if transferStalled world.download env.now then
    let reported := { world with link := diagCountTransferAbort world.link }
    (reported.sendError env world.download.reqId "timeout" (ascii "transfer stalled")).abortDownload env
  else world

def partPath (path : Path) : Path := path ++ ascii ".part"

/-- The reply of both begin handlers. -/
def beginReply (reqId : UInt32) (path : Path) (size : Nat) : Bytes :=
  ascii "status=ok\ntransfer_id=" ++ decimal reqId.toNat ++ ascii "\npath=" ++ path ++ ascii "\nsize=" ++ decimal size

def putEndReply (path : Path) (bytes : Nat) : Bytes :=
  ascii "status=ok\npath=" ++ path ++ ascii "\nbytes=" ++ decimal bytes

def transferHandlePutBegin (env : Env) (world : World) (reqId : UInt32) (payload : Bytes) : World × Bool :=
  if world.upload.active then (world.sendError env reqId "io_error" (ascii "transfer already active"), false)
  else match kvCopy 512 payload (ascii "path"), kvU64 payload (ascii "size") with
  | some path, some size =>
    match utilSnprintf 576 (partPath path) with
    | none => (world.sendError env reqId "bad_payload" (ascii "path too long"), false)
    | some tmpPath =>
      let named := { world.upload with
        path := if env.alloc .transferPath then some path else none
        tmpPath := if env.alloc .transferTmpPath then some tmpPath else none }
      if named.path.isNone || named.tmpPath.isNone then
        (({ world with upload := named }.abortUpload env).sendError env reqId "internal" (ascii "out of memory"), false)
      else
        let upload := { named with
          overwrite := kvBoolDefault payload (ascii "overwrite") false
          mode := .upload
          reqId := reqId
          totalSize := size
          offset := 0
          lastProgressMs := env.now
          chunkSize := kvU64Default payload (ascii "chunk_size") readChunk }
        let world := { world with link := diagCountTransferStart world.link, upload }
        match uvFsCreate env world.fs tmpPath with
        | (fs, .error rc) =>
          (({ world with fs }.abortUpload env).sendError env reqId "io_error" (env.strerror rc), false)
        | (fs, .ok fd) =>
          let world := { world with fs, upload := { upload with file := some fd, active := true } }
          match utilSnprintf 256 (beginReply reqId path size) with
          | none => ((world.sendError env reqId "internal" (ascii "reply overflow")).abortUpload env, false)
          | some reply => world.sendText env .ack reqId reply
  | _, _ => (world.sendError env reqId "bad_payload" (ascii "missing path or size"), false)

/-- Whether a chunk or end request names the upload in progress. -/
def uploadRefusal (upload : TransferState) (reqId : UInt32) : Option Bytes :=
  if !upload.active || upload.reqId ≠ reqId then some (ascii "no active transfer")
  else if upload.mode ≠ .upload then some (ascii "wrong transfer mode")
  else none

def transferHandlePutChunk (env : Env) (world : World) (reqId : UInt32) (payload : Bytes) : World × Bool :=
  match uploadRefusal world.upload reqId with
  | some message => (world.sendError env reqId "bad_payload" message, false)
  | none =>
    if world.upload.totalSize < (world.upload.offset + payload.length) % 2 ^ 64 then
      let world := world.sendError env reqId "bad_payload" (ascii "chunk exceeds declared size")
      ({ world with link := diagCountTransferAbort world.link }.abortUpload env, false)
    else
      let wrote := uvFsWrite env world.fs (world.upload.file.getD 0) world.upload.offset payload
      let world := { world with fs := wrote.1 }
      if wrote.2 < 0 ∨ wrote.2.toNat ≠ payload.length then
        let world := world.sendError env reqId "io_error" (ascii "write failed")
        ({ world with link := diagCountTransferAbort world.link }.abortUpload env, false)
      else
        let upload := { world.upload with
          offset := (world.upload.offset + payload.length) % 2 ^ 64
          lastProgressMs := env.now }
        ({ world with upload }, true)

def transferFinalizeRename (env : Env) (fs : FileSystem) (overwrite : Bool) (tmpPath path : Path) : FileSystem × Int :=
  let fs := if overwrite then uvFsUnlink env fs path else fs
  uvFsRename env fs tmpPath path

def transferHandlePutEnd (env : Env) (world : World) (reqId : UInt32) : World × Bool :=
  match uploadRefusal world.upload reqId with
  | some message => (world.sendError env reqId "bad_payload" message, false)
  | none =>
    if world.upload.offset ≠ world.upload.totalSize then
      ((world.sendError env reqId "bad_payload" (ascii "size mismatch")).abortUpload env, false)
    else
      let closed := uvFsClose env world.fs (world.upload.file.getD 0)
      let world := { world with fs := closed.1, upload := { world.upload with file := none } }
      if closed.2 < 0 then
        ((world.sendError env reqId "io_error" (env.strerror closed.2)).abortUpload env, false)
      else
        let path := world.upload.path.getD []
        let moved := transferFinalizeRename env world.fs world.upload.overwrite (world.upload.tmpPath.getD []) path
        let world := { world with fs := moved.1 }
        if moved.2 < 0 then
          ((world.sendError env reqId "io_error" (env.strerror moved.2)).abortUpload env, false)
        else match utilSnprintf 256 (putEndReply path world.upload.offset) with
          | none => ((world.sendError env reqId "internal" (ascii "reply overflow")).abortUpload env, false)
          | some reply =>
            let world := (world.sendText env .ack reqId reply).1
            ({ world with
              link := diagCountTransferComplete world.link
              upload := transferReset world.upload }, true)

/-- The read loop of `transfer_handle_get_begin` and what follows it. -/
def getLoop (env : Env) (reqId : UInt32) (fd : Nat) (world : World) : World × Bool :=
  if _more : world.download.offset < world.download.totalSize then
    let left := world.download.totalSize - world.download.offset
    let toRead := if left < world.download.chunkSize then left else world.download.chunkSize
    let failed := { world with link := diagCountTransferAbort world.link }.abortDownload env
    match uvFsRead env world.fs fd world.download.offset toRead with
    | .error _ => (failed.sendError env reqId "io_error" (ascii "read failed"), false)
    | .ok bytes =>
      if _empty : bytes.length = 0 then (failed.sendError env reqId "io_error" (ascii "read failed"), false)
      else
        let sent := sessionSendFrame env world.link FrameType.getChunk.code reqId bytes
        if !sent.2 then ({ world with link := diagCountTransferAbort sent.1 }.abortDownload env, false)
        else
          getLoop env reqId fd { world with
            link := sent.1
            download := { world.download with
              offset := world.download.offset + bytes.length
              lastProgressMs := env.now } }
  else
    let world := { world with
      fs := (uvFsClose env world.fs fd).1
      download := { world.download with file := none } }
    let world := (world.sendText env .getEnd reqId (ascii "status=ok")).1
    ({ world with
      link := diagCountTransferComplete world.link
      download := transferReset world.download }, true)
termination_by world.download.totalSize - world.download.offset
decreasing_by
  omega

/-- The chunk size a download uses when the request names this one. -/
def downloadChunkSize (requested : Nat) : Nat :=
  if requested = 0 || maxFramePayload < requested then readChunk else requested

def transferHandleGetBegin (env : Env) (world : World) (reqId : UInt32) (payload : Bytes) : World × Bool :=
  if world.download.active then (world.sendError env reqId "io_error" (ascii "download already active"), false)
  else match kvCopy 512 payload (ascii "path") with
  | none => (world.sendError env reqId "bad_payload" (ascii "missing path"), false)
  | some path =>
    if !env.alloc .transferPath then
      ({ world with download := { world.download with path := none } }.sendError env reqId "internal"
        (ascii "out of memory"), false)
    else
      let chunkSize := downloadChunkSize (kvU64Default payload (ascii "chunk_size") readChunk)
      let world := { world with download := { world.download with path := some path, chunkSize } }
      match uvFsOpen env world.fs path with
      | (fs, .error rc) =>
        (({ world with fs }.abortDownload env).sendError env reqId "not_found" (env.strerror rc), false)
      | (fs, .ok fd) =>
        let world := { world with fs, download := { world.download with file := some fd } }
        match uvFsFstat env world.fs fd with
        | .error rc => ((world.abortDownload env).sendError env reqId "io_error" (env.strerror rc), false)
        | .ok size =>
          let download := { world.download with
            active := true
            mode := .download
            reqId := reqId
            totalSize := size
            offset := 0
            lastProgressMs := env.now }
          let world := { world with link := diagCountTransferStart world.link, download }
          match utilSnprintf 256 (beginReply reqId path size) with
          | none => ((world.abortDownload env).sendError env reqId "internal" (ascii "reply overflow"), false)
          | some reply =>
            let sent := world.sendText env .ack reqId reply
            if !sent.2 then (sent.1.abortDownload env, false)
            else if !env.alloc .chunk then
              ((sent.1.abortDownload env).sendError env reqId "internal" (ascii "out of memory"), false)
            else getLoop env reqId fd sent.1

end Luagent
