import DocStore.Config.Basic
import DocStore.Json.Typed

/-!
# Configurations as documents

`Config.reader` reads a configuration from JSON. Every setting may be missing and has its default
then; the timeout is a record of seconds and nanoseconds, both required.
-/

namespace DocStore.Config

open Json (Reader)

/-- A duration in seconds and nanoseconds. -/
structure Duration where
  seconds : Nat := 0
  nanos : Nat := 0

/-- The nanoseconds of a duration whose whole seconds fit in 64 bits. -/
def Duration.total? (d : Duration) : Option Nat :=
  if d.seconds + d.nanos / tenTo 9 < twoTo 64 then some (d.seconds * tenTo 9 + d.nanos) else none

/-- A duration in nanoseconds. -/
def durationReader : Reader Nat :=
  Reader.checked Duration.total? <|
    Reader.record
      ⟨[Reader.requiredField "secs" (.natBelow (twoTo 64)) fun d seconds => { d with seconds },
        Reader.requiredField "nanos" (.natBelow (twoTo 32)) fun d nanos => { d with nanos }], false⟩
      {}

/-- A configuration; whatever is missing has its default, and other names are passed over. -/
def reader : Reader Config :=
  Reader.record
    ⟨[Reader.field "application_id" .string fun c applicationId => { c with applicationId },
      Reader.field "api_key" .string fun c apiKey => { c with apiKey },
      Reader.field "server_url" .string fun c serverUrl => { c with serverUrl },
      Reader.field "api_version" .string fun c apiVersion => { c with apiVersion },
      Reader.field "revocable_sessions" .bool fun c revocableSessions =>
        { c with revocableSessions },
      Reader.field "timeout" durationReader fun c timeout => { c with timeout },
      Reader.field "background_workers" (.optional (.natBelow (twoTo 64))) fun c workers =>
        { c with workers }], true⟩
    {}

end DocStore.Config
