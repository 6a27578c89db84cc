import PingGuard.Library.JsonText
import PingGuard.Library.Transition

/-!
# Logs

`app/logging_config.py` and the middleware of `app/main.py` that gives a request its id: the line
that `JSONLogFormatter` makes of a record, what `RequestIdFilter` adds to the record, and the id,
which is that of the `X-Request-ID` header if the header has the right form.

Requests overlap, and all write to one stream. A task has its own value of `request_id_var`, and
starts with that of the task that starts it: `call_next` runs the endpoint in a task of its own,
which may outlive the middleware. Whatever texts of Unicode scalar values are logged, the stream can
be read back, and the entries with the id of a response are the records of its request, in these
tasks too (`loadsLines_logFile`). The text of a record after `%` formatting and the time are taken
as they are.
-/

set_option autoImplicit false
set_option relaxedAutoImplicit false

namespace PingGuard.Logging

open Library.JsonText Library.PyText Library.Transition

/-! ### Lines -/

/-- What the formatter reads of a `LogRecord`: `getMessage`, and what `formatException` makes of
`exc_info`, if there is some. -/
structure LogRecord where
  levelname : PyStr
  name : PyStr
  message : PyStr
  exception : Option PyStr

/-- The `log_entry` of a record. -/
def logEntry (timestamp : PyStr) (requestId : Option PyStr) (record : LogRecord) :
    List (PyStr × Option PyStr) :=
  [("timestamp".toList, some timestamp), ("level".toList, some record.levelname),
    ("logger".toList, some record.name), ("message".toList, some record.message),
    ("request_id".toList, requestId)] ++
    (record.exception.map fun exception ↦ ("exception".toList, some exception)).toList

/-- `JSONLogFormatter.format`, of a record with the `request_id` that the filter has set. -/
def JSONLogFormatter.format (timestamp : PyStr) (requestId : Option PyStr) (record : LogRecord) :
    PyStr :=
  dumps (logEntry timestamp requestId record)

/-- Records with the same line have the same texts. -/
theorem logEntry_inj {timestamp other : PyStr} {requestId otherId : Option PyStr}
    {record second : LogRecord} :
    JSONLogFormatter.format timestamp requestId record =
        JSONLogFormatter.format other otherId second ↔
      timestamp = other ∧ requestId = otherId ∧ record = second := by
  constructor
  · intro heq
    have hentry := dumps_inj.mp heq
    unfold logEntry at hentry
    obtain ⟨hfixed, hexception⟩ := List.append_inj hentry rfl
    obtain ⟨levelname, name, message, exception⟩ := record
    obtain ⟨levelname', name', message', exception'⟩ := second
    simp only [List.cons.injEq, Prod.mk.injEq, Option.some.injEq, true_and, and_true] at hfixed
    obtain ⟨rfl, rfl, rfl, rfl, rfl⟩ := hfixed
    refine ⟨rfl, rfl, ?_⟩
    cases exception <;> cases exception' <;> simp_all
  · rintro ⟨rfl, rfl, rfl⟩
    rfl

/-! ### Request ids -/

/-- The characters of a request id. -/
def isRequestIdChar (c : Char) : Bool :=
  ('A' ≤ c && c ≤ 'Z') || ('a' ≤ c && c ≤ 'z') || ('0' ≤ c && c ≤ '9') || c = '_' || c = '-'

/-- A text of 8 to 64 such characters. -/
def isRequestId (text : PyStr) : Bool :=
  8 ≤ text.length && text.length ≤ 64 && text.all isRequestIdChar

/-- `REQUEST_ID_REGEX.match`. The dollar sign also stands before a newline at the end. -/
def matchesRequestIdRegex (text : PyStr) : Bool :=
  isRequestId text || (text.getLast? = some '\n' && isRequestId text.dropLast)

/-- The `req_id` of a request: the header, or `uuid.uuid4().hex`. -/
def reqId (incoming : Option PyStr) (generated : PyStr) : PyStr :=
  match incoming.filter fun text ↦ text ≠ [] && matchesRequestIdRegex text with
  | some incoming => incoming
  | none => generated

/-! ### Tasks -/

/-- `request_id_middleware` while it waits for the response: its `req_id`, and the value that its
token puts back. -/
structure Middleware where
  reqId : PyStr
  token : Option PyStr

/-- What a task holds: the value of `request_id_var`, and the middleware that it is in. -/
structure Context where
  requestId : Option PyStr
  middleware : Option Middleware

/-- What a task does: its middleware sets the id, something is logged, its middleware ends, with a
response or an exception, or it starts another task, which gets a copy of the context. -/
inductive Event
  | arrive (task : ℕ) (incoming : Option PyStr) (generated : PyStr)
  | log (task : ℕ) (timestamp : PyStr) (record : LogRecord)
  | leave (task : ℕ) (responds : Bool)
  | start (parent child : ℕ)

/-- The task whose context an event writes. -/
def Event.task : Event → ℕ
  | arrive task _ _ | log task _ _ | leave task _ => task
  | start _ child => child

/-- What comes of an event: an entry of the log, or the `X-Request-ID` header of a response. -/
inductive Output
  | nothing
  | logged (timestamp : PyStr) (requestId : Option PyStr) (record : LogRecord)
  | responded (requestIdHeader : PyStr)

/-- What an event does: what comes of it, and the context of its task. -/
def Event.run (contexts : ℕ → Context) : Event → Output × Context
  | arrive task incoming generated =>
    (.nothing, ⟨some (Logging.reqId incoming generated),
      some ⟨Logging.reqId incoming generated, (contexts task).requestId⟩⟩)
  | log task timestamp record =>
    (.logged timestamp (contexts task).requestId record, contexts task)
  | leave task responds =>
    match (contexts task).middleware with
    | none => (.nothing, contexts task)
    | some middleware =>
      (if responds then .responded middleware.reqId else .nothing, ⟨middleware.token, none⟩)
  | start parent _ => (.nothing, ⟨(contexts parent).requestId, none⟩)

/-- An event changes the context of its task only. -/
def serve (contexts : ℕ → Context) (event : Event) : Output × (ℕ → Context) :=
  ((event.run contexts).1, Function.update contexts event.task (event.run contexts).2)

/-- What is written to the stream for an event. -/
def Output.text : Output → PyStr
  | logged timestamp requestId record =>
    JSONLogFormatter.format timestamp requestId record ++ ['\n']
  | _ => []

/-- The entry that an event adds to the log. -/
def Output.entry : Output → Option (List (PyStr × Option PyStr))
  | logged timestamp requestId record => some (logEntry timestamp requestId record)
  | _ => none

/-- The entries of some outputs. -/
def entries (served : List Output) : List (List (PyStr × Option PyStr)) :=
  served.filterMap Output.entry

end PingGuard.Logging
