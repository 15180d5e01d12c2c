import Zpr.Grpc.BidiCall
import Zpr.Grpc.OpenTimeout
import Zpr.Grpc.Proxy
import Zpr.GrpcServer.QueueStats
import Zpr.Json.Handles
import Zpr.ErrorSlot.Ending
import Zpr.Protobuf.JsonMessage

namespace Zpr.ErrorSlot

open Ffi Json Protobuf

/-! # The entry points

Every exported entry point with what its result and its message depend on: its arguments,
the state that it finds, and what the libraries and the network answer. `zpr_last_error`
itself is no call here. -/

/-- What comes from the outside and stays the same. -/
structure Outside (Pool Descriptor Message Deserializer : Type) where
  serde : Serde
  messages : Libraries Pool Descriptor Message
  reader : Reader Descriptor Message Deserializer
  /-- `DescriptorPool::decode` -/
  decode_pool : Bytes → Except String Pool
  /-- `DynamicMessage::deserialize` of a tree -/
  deserialize_value : Descriptor → Value → Except String Message
  /-- the parser of `PathAndQuery` -/
  path : String → Except String Unit
  /-- `reqwest::Method::from_bytes` -/
  method : String → Except String Unit
  parse_headers : String → Except String Unit

/-- What the operating system answers to a server that is started. -/
structure Listening where
  bind : Except String Unit
  set_nonblocking : Except String Unit
  spawn : Except String Unit

/-- The answers of the network to a gRPC call: a message or a status with its text, or an
error before there was a status. -/
abbrev Answered := Except String (Except String Unit)

/-! ## The HTTP client -/

/-- `built` says whether there is a client already. -/
def zpr_http_set_proxy (built : Bool) (proxy_url : Option Bytes) : Ending :=
  if built then
    failed (.code ZPR_ERR) "zpr_http_set_proxy called after the HTTP client was already built"
  else
    match proxy_url with
    | none => returned (.code ZPR_OK)
    | some ptr => reported (.code ZPR_ERR) (.code ZPR_OK) (cstr_to_str (some ptr))

variable {Pool Descriptor Message Deserializer : Type}

section

variable (outside : Outside Pool Descriptor Message Deserializer)

/-- The optional headers. -/
def requestHeaders (headers_json : Option Bytes) : Except String Unit :=
  match headers_json with
  | none => .ok ()
  | some ptr => (cstr_to_str (some ptr)).bind outside.parse_headers

/-- `send` and `bytes` are what reqwest answers. -/
def zpr_http_request (method url headers_json : Option Bytes) (send bytes : Except String Unit) :
    Ending :=
  reported (.code ZPR_ERR) (.code ZPR_OK) do
    let method_str ← cstr_to_str method
    let _ ← cstr_to_str url
    (outside.method method_str).mapError fun e =>
      s!"invalid HTTP method {outside.messages.debug method_str}: {e}"
    requestHeaders outside headers_json
    send.mapError fun e => s!"HTTP request failed: {e}"
    bytes.mapError fun e => s!"failed to read HTTP response body: {e}"

/-! ## gRPC calls -/

/-- The arguments that the three entry points have in common. -/
def callArguments (badPath : String → String → String)
    (endpoint method_path metadata_json : Option Bytes) : Except String Unit := do
  let _ ← cstr_to_str endpoint
  let path ← cstr_to_str method_path
  (outside.path path).mapError (badPath path)
  match metadata_json with
  | none => .ok ()
  | some ptr => (cstr_to_str (some ptr)).map fun _ => ()

/-- What becomes of a call whose arguments were good. -/
def callEnding : Answered → Ending
  | .ok (.ok _) => returned (.outcome Grpc.Timed.GRPC_CALL_OK)
  | .ok (.error message) => failed (.outcome Grpc.Timed.GRPC_CALL_STATUS_ERR) message
  | .error e => failed (.outcome GRPC_CALL_TRANSPORT_ERR) e

/-- The arguments first, then the call. -/
def calling (badPath : String → String → String)
    (endpoint method_path metadata_json : Option Bytes) (answered : Answered) : Ending :=
  match callArguments outside badPath endpoint method_path metadata_json with
  | .error e => failed (.outcome GRPC_CALL_TRANSPORT_ERR) e
  | .ok () => callEnding answered

def invalidMethodPath (path e : String) : String :=
  s!"invalid gRPC method path {outside.messages.debug path}: {e}"

def zpr_grpc_call (endpoint method_path metadata_json : Option Bytes) (answered : Answered) :
    Ending :=
  calling outside (invalidMethodPath outside) endpoint method_path metadata_json answered

def zpr_grpc_client_stream_open (endpoint method_path metadata_json : Option Bytes)
    (answered : Answered) : Ending :=
  calling outside (invalidMethodPath outside) endpoint method_path metadata_json answered

def zpr_grpc_bidi_open (endpoint method_path metadata_json : Option Bytes)
    (answered : Answered) : Ending :=
  calling outside (fun path e => s!"bad method path {outside.messages.debug path}: {e}")
    endpoint method_path metadata_json answered

/-! ## Protobuf -/

def zpr_protobuf_json_value_to_binary (heap : Heap) (pool : Option Pool)
    (message_type : Option Bytes) (value : Handle) : Option Ending :=
  match pool, value with
  | some pool, some box =>
      match cstr_to_str message_type with
      | .error e => some (failed (.code ZPR_ERR) e)
      | .ok type_name =>
          match outside.messages.get_message_by_name pool type_name with
          | none =>
              some (failed (.code ZPR_ERR)
                s!"no message type {outside.messages.debug type_name} in the descriptor set")
          | some desc =>
              match heap.read box with
              | .error _ => none
              | .ok v =>
                  some (reported (.code ZPR_ERR) (.code ZPR_OK)
                    ((outside.deserialize_value desc v).mapError fun e =>
                      s!"JSON does not match {type_name}: {e}"))
  | _, _ => some (failed (.code ZPR_ERR) "null descriptor pool or JSON value handle")

def zpr_protobuf_pool_new (descriptor_set : Option Bytes) : Ending :=
  match descriptor_set with
  | none =>
      failed (.pointer .null) "null descriptor_set passed to zpr_protobuf_pool_new"
  | some bytes =>
      reported (.pointer .null) (.pointer .valid)
        ((outside.decode_pool bytes).mapError fun e => s!"invalid FileDescriptorSet: {e}")

/-! ## Servers -/

/-- The socket first, then the thread. -/
def listen (addr : String) (noThread : String) (listening : Listening) : Except String Unit := do
  listening.bind.mapError fun e => s!"failed to bind {outside.messages.debug addr}: {e}"
  listening.set_nonblocking.mapError fun e =>
    s!"failed to configure listener for {outside.messages.debug addr}: {e}"
  listening.spawn.mapError fun e => s!"{noThread}: {e}"

def zpr_grpc_server_start_queued (bind_addr : Option Bytes) (listening : Listening) : Ending :=
  reported (.code ZPR_ERR) (.code ZPR_OK) do
    let addr ← cstr_to_str bind_addr
    listen outside addr "failed to start gRPC server thread" listening

def zpr_grpc_server_start (bind_addr : Option Bytes) (listening : Listening) : Ending :=
  reported (.code ZPR_ERR) (.code ZPR_OK) do
    let addr ← cstr_to_str bind_addr
    listen outside addr "failed to start gRPC server thread" listening

def zpr_transcode_start (bind_addr upstream : Option Bytes) (pool : Pointer)
    (listening : Listening) : Ending :=
  match pool with
  | .null => failed (.code ZPR_ERR) "null descriptor pool passed to zpr_transcode_start"
  | .valid =>
      reported (.code ZPR_ERR) (.code ZPR_OK) do
        let addr ← cstr_to_str bind_addr
        let _ ← cstr_to_str upstream
        listen outside addr "failed to start the transcoder thread" listening

end

/-- A null handle is refused without a message. -/
def zpr_grpc_server_stop (handle : Pointer) : Ending :=
  match handle with
  | .null => returned (.code ZPR_ERR)
  | .valid => returned (.code ZPR_OK)

/-- What the handler of a callback server finds when it reads: `none` is the end. -/
def zpr_grpc_stream_read (stream : Pointer) (msg : Option Bytes) : Ending :=
  match stream with
  | .null =>
      failed (.code ZPR_ERR) "null stream handle passed to zpr_grpc_stream_read"
  | .valid => returned (.code (if msg.isSome then 1 else 0))

def zpr_grpc_stream_write (stream : Pointer) (connected : Bool) : Ending :=
  match stream with
  | .null =>
      failed (.code ZPR_ERR) "null stream handle passed to zpr_grpc_stream_write"
  | .valid =>
      if connected then returned (.code ZPR_OK)
      else failed (.code ZPR_ERR) "client disconnected"

/-- An entry point that works on a queue, or complains about a null one. -/
def onQueue (queue : Pointer) (entry : String) (body : Option Ending) : Option Ending :=
  match queue with
  | .null => some (failed (.code ZPR_ERR) s!"null queue passed to {entry}")
  | .valid => body

/-! ## What the replies of the other modules say -/

def ofAnswer (view : α → Result) (answer : Json.Answer α) : Ending where
  result := view answer.result
  stored := answer.last_error

def ofHandle (handle : Handle) : Result := .pointer (if handle.isSome then .valid else .null)

def ofString (text : Option String) : Result := .pointer (if text.isSome then .valid else .null)

/-- `none` where something undefined is done. -/
def ofJson (view : α → Result) (answer : Except Fault (Json.Answer α)) : Option Ending :=
  answer.toOption.map (ofAnswer view)

def ofStream : Grpc.Reply → Ending
  | .silent | .pushed _ _ => returned .void
  | .read reply => ⟨.code reply.rc, reply.last_error⟩
  | .filled reply => ⟨.code reply.rc, reply.last_error⟩
  | .returned rc last_error => ⟨.code rc, last_error⟩
  | .stats rc _ _ last_error => ⟨.code rc, last_error⟩

def ofServer : GrpcServer.Reply → Ending
  | .silent | .removed _ | .polled _ => returned .void
  | .accepted reply => ⟨.code reply.rc, reply.last_error⟩
  | .read reply => ⟨.code reply.rc, reply.last_error⟩
  | .returned rc last_error => ⟨.code rc, last_error⟩

/-! ## All of them -/

/-- A call with what it meets. -/
inductive Call (Pool : Type)
  -- ffi
  | zpr_buffer_free
  | zpr_alloc (len : Nat)
  | zpr_string_free (s : Pointer)
  | zpr_version
  -- http
  | zpr_http_set_proxy (built : Bool) (proxy_url : Option Bytes)
  | zpr_http_request (method url headers_json : Option Bytes) (send bytes : Except String Unit)
  -- json
  | zpr_json_parse (heap : Heap) (text : Option Bytes)
  | zpr_json_free (heap : Heap) (handle : Handle)
  | zpr_json_stringify (heap : Heap) (handle : Handle) (pretty : Int)
  | zpr_json_kind (heap : Heap) (handle : Handle)
  | zpr_json_as_bool (heap : Heap) (handle : Handle) (out : Pointer)
  | zpr_json_as_f64 (heap : Heap) (handle : Handle) (out : Pointer)
  | zpr_json_as_string (heap : Heap) (handle : Handle)
  | zpr_json_array_len (heap : Heap) (handle : Handle)
  | zpr_json_array_get (heap : Heap) (handle : Handle) (index : Nat)
  | zpr_json_object_get (heap : Heap) (handle : Handle) (key : Option Bytes)
  | zpr_json_object_keys (heap : Heap) (handle : Handle)
  | zpr_json_new_null (heap : Heap)
  | zpr_json_new_bool (heap : Heap) (b : UInt8)
  | zpr_json_new_f64 (heap : Heap) (n : F64)
  | zpr_json_new_string (heap : Heap) (s : Option Bytes)
  | zpr_json_new_array (heap : Heap)
  | zpr_json_new_object (heap : Heap)
  | zpr_json_array_push (heap : Heap) (array value : Handle)
  | zpr_json_object_set (heap : Heap) (object : Handle) (key : Option Bytes) (value : Handle)
  -- grpc
  | zpr_grpc_set_proxy (slot : Option String) (proxy_url : Option Bytes)
  | zpr_grpc_call (endpoint method_path metadata_json : Option Bytes) (answered : Answered)
  | zpr_grpc_client_stream_open (endpoint method_path metadata_json : Option Bytes)
      (answered : Answered)
  | zpr_grpc_client_stream_read (call : Grpc.ClientCall) (stream out : Pointer)
  | zpr_grpc_client_stream_read_into (call : Grpc.ClientCall) (stream : Pointer)
      (buffer : Buffer)
  | zpr_grpc_client_stream_buffer (call : Grpc.ClientCall) (stream : Pointer) (capacity : Nat)
  | zpr_grpc_client_stream_stats (call : Grpc.ClientCall)
      (stream out_depth out_dropped : Pointer)
  | zpr_grpc_client_stream_cancel (call : Grpc.ClientCall) (stream : Pointer)
  | zpr_grpc_bidi_open (endpoint method_path metadata_json : Option Bytes)
      (answered : Answered)
  | zpr_grpc_bidi_send (call : Grpc.Bidi.BidiCall) (stream data : Pointer) (bytes : Bytes)
  | zpr_grpc_bidi_close_send (call : Grpc.Bidi.BidiCall) (stream : Pointer)
  | zpr_grpc_bidi_read_into (call : Grpc.Bidi.BidiCall) (stream : Pointer) (buffer : Buffer)
  | zpr_grpc_bidi_buffer (call : Grpc.Bidi.BidiCall) (stream : Pointer) (capacity : Nat)
  | zpr_grpc_bidi_cancel (call : Grpc.Bidi.BidiCall) (stream : Pointer)
  -- protobuf
  | zpr_protobuf_binary_to_json_value (pool : Option Pool) (message_type data : Option Bytes)
  | zpr_protobuf_json_value_to_binary (heap : Heap) (pool : Option Pool)
      (message_type : Option Bytes) (value : Handle)
  | zpr_protobuf_pool_new (descriptor_set : Option Bytes)
  | zpr_protobuf_pool_free (handle : Pointer)
  | zpr_protobuf_json_to_binary (pool : Option Pool) (message_type json : Option Bytes)
      (out : Pointer)
  | zpr_protobuf_binary_to_json (pool : Option Pool) (message_type data : Option Bytes)
  -- grpc_server
  | zpr_grpc_stream_read (stream : Pointer) (msg : Option Bytes)
  | zpr_grpc_stream_write (stream : Pointer) (connected : Bool)
  | zpr_grpc_server_start_queued (bind_addr : Option Bytes) (listening : Listening)
  | zpr_grpc_queue_configure (queue : Pointer) (server : GrpcServer.Server)
      (max_pending deadline_ms : Nat)
  | zpr_grpc_queue_counters (queue : Option GrpcServer.CallQueue)
      (out_accepted out_completed out_refused out_reaped : Pointer)
  | zpr_grpc_accept (queue : Pointer) (server : GrpcServer.Server) (out_call_id : Pointer)
      (out_method : Buffer)
  | zpr_grpc_call_read_into (queue : Pointer) (server : GrpcServer.Server) (call_id : Nat)
      (buffer : Buffer)
  | zpr_grpc_call_write (queue : Pointer) (server : GrpcServer.Server) (call_id : Nat)
      (data : Pointer) (bytes : Bytes)
  | zpr_grpc_call_complete (queue : Pointer) (server : GrpcServer.Server) (call_id : Nat)
      (grpc_status : Int) (message : Option Bytes)
  | zpr_grpc_queue_stats (queue : Option GrpcServer.CallQueue) (out_pending out_live : Pointer)
  | zpr_grpc_queue_free (queue : Pointer)
  | zpr_grpc_server_start (bind_addr : Option Bytes) (listening : Listening)
  | zpr_grpc_server_stop (handle : Pointer)
  -- transcode
  | zpr_transcode_start (bind_addr upstream : Option Bytes) (pool : Pointer)
      (listening : Listening)
  | zpr_transcode_stop (handle : Pointer)
  /-- an entry point whose body panics inside `guard` -/
  | panics (guarded : Guarded) (payload : Option String)

section

variable (outside : Outside Pool Descriptor Message Deserializer)

/-- How a call ends: `none` where it does not return, or does something undefined. -/
def Call.ending : Call Pool → Option Ending
  | .zpr_buffer_free | .zpr_string_free _ | .zpr_protobuf_pool_free _ | .zpr_grpc_queue_free _ =>
      some (returned .void)
  | .zpr_alloc _ | .zpr_version => some (returned (.pointer .valid))
  | .zpr_http_set_proxy built proxy_url => some (ErrorSlot.zpr_http_set_proxy built proxy_url)
  | .zpr_http_request method url headers_json send bytes =>
      some (ErrorSlot.zpr_http_request outside method url headers_json send bytes)
  | .zpr_json_parse heap text =>
      some (ofAnswer ofHandle (zpr_json_parse_handle outside.serde heap text))
  | .zpr_json_free heap handle => ofJson (fun _ => .void) (Json.zpr_json_free heap handle)
  | .zpr_json_stringify heap handle pretty =>
      ofJson ofString (Json.zpr_json_stringify outside.serde heap handle pretty)
  | .zpr_json_kind heap handle => ofJson .code (Json.zpr_json_kind heap handle)
  | .zpr_json_as_bool heap handle out =>
      ofJson (fun result => .code result.1) (Json.zpr_json_as_bool heap handle out)
  | .zpr_json_as_f64 heap handle out =>
      ofJson (fun result => .code result.1) (Json.zpr_json_as_f64 heap handle out)
  | .zpr_json_as_string heap handle => ofJson ofString (Json.zpr_json_as_string heap handle)
  | .zpr_json_array_len heap handle => ofJson .length (Json.zpr_json_array_len heap handle)
  | .zpr_json_array_get heap handle index =>
      ofJson ofHandle (Json.zpr_json_array_get heap handle index)
  | .zpr_json_object_get heap handle key =>
      ofJson ofHandle (Json.zpr_json_object_get heap handle key)
  | .zpr_json_object_keys heap handle =>
      ofJson ofString (Json.zpr_json_object_keys outside.serde heap handle)
  | .zpr_json_new_null heap => some (ofAnswer ofHandle (Json.zpr_json_new_null heap))
  | .zpr_json_new_bool heap b => some (ofAnswer ofHandle (Json.zpr_json_new_bool heap b))
  | .zpr_json_new_f64 heap n => some (ofAnswer ofHandle (Json.zpr_json_new_f64 heap n))
  | .zpr_json_new_string heap s => some (ofAnswer ofHandle (Json.zpr_json_new_string heap s))
  | .zpr_json_new_array heap => some (ofAnswer ofHandle (Json.zpr_json_new_array heap))
  | .zpr_json_new_object heap => some (ofAnswer ofHandle (Json.zpr_json_new_object heap))
  | .zpr_json_array_push heap array value =>
      ofJson .code (Json.zpr_json_array_push heap array value)
  | .zpr_json_object_set heap object key value =>
      ofJson .code (Json.zpr_json_object_set heap object key value)
  | .zpr_grpc_set_proxy slot proxy_url =>
      let (_, rc, last_error) := Grpc.Proxy.zpr_grpc_set_proxy slot proxy_url
      some ⟨.code rc, last_error⟩
  | .zpr_grpc_call endpoint method_path metadata_json answered =>
      some (ErrorSlot.zpr_grpc_call outside endpoint method_path metadata_json answered)
  | .zpr_grpc_client_stream_open endpoint method_path metadata_json answered =>
      some (ErrorSlot.zpr_grpc_client_stream_open outside endpoint method_path metadata_json
        answered)
  | .zpr_grpc_client_stream_read call stream out =>
      (Grpc.clientStep call (.read stream out)).map fun (_, reply) => ofStream reply
  | .zpr_grpc_client_stream_read_into call stream buffer =>
      (Grpc.clientStep call (.read_into stream buffer)).map fun (_, reply) => ofStream reply
  | .zpr_grpc_client_stream_buffer call stream capacity =>
      (Grpc.clientStep call (.buffer stream capacity)).map fun (_, reply) => ofStream reply
  | .zpr_grpc_client_stream_stats call stream out_depth out_dropped =>
      (Grpc.clientStep call (.stats stream out_depth out_dropped)).map fun (_, reply) =>
        ofStream reply
  | .zpr_grpc_client_stream_cancel call stream =>
      (Grpc.clientStep call (.cancel stream)).map fun (_, reply) => ofStream reply
  | .zpr_grpc_bidi_open endpoint method_path metadata_json answered =>
      some (ErrorSlot.zpr_grpc_bidi_open outside endpoint method_path metadata_json answered)
  | .zpr_grpc_bidi_send call stream data bytes =>
      (Grpc.Bidi.bidiCallStep call (.send stream data bytes)).map fun (_, reply) =>
        ofStream reply
  | .zpr_grpc_bidi_close_send call stream =>
      (Grpc.Bidi.bidiCallStep call (.close_send stream)).map fun (_, reply) => ofStream reply
  | .zpr_grpc_bidi_read_into call stream buffer =>
      (Grpc.Bidi.bidiCallStep call (.read_into stream buffer)).map fun (_, reply) =>
        ofStream reply
  | .zpr_grpc_bidi_buffer call stream capacity =>
      (Grpc.Bidi.bidiCallStep call (.buffer stream capacity)).map fun (_, reply) =>
        ofStream reply
  | .zpr_grpc_bidi_cancel call stream =>
      (Grpc.Bidi.bidiCallStep call (.cancel stream)).map fun (_, reply) => ofStream reply
  | .zpr_protobuf_binary_to_json_value pool message_type data =>
      some (reported (.pointer .null) (.pointer .valid)
        (Protobuf.zpr_protobuf_binary_to_json_value outside.messages pool message_type data))
  | .zpr_protobuf_json_value_to_binary heap pool message_type value =>
      ErrorSlot.zpr_protobuf_json_value_to_binary outside heap pool message_type value
  | .zpr_protobuf_pool_new descriptor_set =>
      some (ErrorSlot.zpr_protobuf_pool_new outside descriptor_set)
  | .zpr_protobuf_json_to_binary pool message_type json out =>
      let encoded := Protobuf.zpr_protobuf_json_to_binary outside.messages outside.reader pool
        message_type json out
      some ⟨.code encoded.rc, encoded.last_error⟩
  | .zpr_protobuf_binary_to_json pool message_type data =>
      some (reported (.pointer .null) (.pointer .valid)
        (Protobuf.zpr_protobuf_binary_to_json outside.messages pool message_type data))
  | .zpr_grpc_stream_read stream msg => some (ErrorSlot.zpr_grpc_stream_read stream msg)
  | .zpr_grpc_stream_write stream connected =>
      some (ErrorSlot.zpr_grpc_stream_write stream connected)
  | .zpr_grpc_server_start_queued bind_addr listening =>
      some (ErrorSlot.zpr_grpc_server_start_queued outside bind_addr listening)
  | .zpr_grpc_queue_configure queue server max_pending deadline_ms =>
      onQueue queue "zpr_grpc_queue_configure"
        ((GrpcServer.serverStep server (.configure max_pending deadline_ms)).map
          fun (_, reply) => ofServer reply)
  | .zpr_grpc_queue_counters queue out_accepted out_completed out_refused out_reaped =>
      let reply := GrpcServer.zpr_grpc_queue_counters queue out_accepted out_completed
        out_refused out_reaped
      some ⟨.code reply.rc, reply.last_error⟩
  | .zpr_grpc_accept queue server out_call_id out_method =>
      onQueue queue "zpr_grpc_accept"
        ((GrpcServer.serverStep server (.accept out_call_id out_method)).map
          fun (_, reply) => ofServer reply)
  | .zpr_grpc_call_read_into queue server call_id buffer =>
      onQueue queue "zpr_grpc_call_read_into"
        ((GrpcServer.serverStep server (.read_into call_id buffer)).map
          fun (_, reply) => ofServer reply)
  | .zpr_grpc_call_write queue server call_id data bytes =>
      onQueue queue "zpr_grpc_call_write"
        ((GrpcServer.serverStep server (.write call_id data bytes)).map
          fun (_, reply) => ofServer reply)
  | .zpr_grpc_call_complete queue server call_id grpc_status message =>
      onQueue queue "zpr_grpc_call_complete"
        ((GrpcServer.serverStep server (.complete call_id grpc_status message)).map
          fun (_, reply) => ofServer reply)
  | .zpr_grpc_queue_stats queue out_pending out_live =>
      let reply := GrpcServer.zpr_grpc_queue_stats queue out_pending out_live
      some ⟨.code reply.rc, reply.last_error⟩
  | .zpr_grpc_server_start bind_addr listening =>
      some (ErrorSlot.zpr_grpc_server_start outside bind_addr listening)
  | .zpr_grpc_server_stop handle => some (ErrorSlot.zpr_grpc_server_stop handle)
  | .zpr_transcode_start bind_addr upstream pool listening =>
      some (ErrorSlot.zpr_transcode_start outside bind_addr upstream pool listening)
  -- also for a null handle
  | .zpr_transcode_stop _ => some (returned (.code ZPR_OK))
  | .panics guarded payload => some (panicked guarded.default payload)

end

end Zpr.ErrorSlot
