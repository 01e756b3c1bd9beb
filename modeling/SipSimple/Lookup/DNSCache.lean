import SipSimple.Library.Runs
import Mathlib.Data.List.Basic
import Mathlib.Logic.Function.Basic

/-!
# The DNS cache

`DNSCache` of `lookup.py`. A value stays until a delayed call removes its key, and every `put` starts such a call of
its own, which nothing stops: a call may find another value, or none. A call has the method of the dictionary that the
cache had at the `put`, and `flush` without a key makes a new one, which the older calls do not reach. When the calls
run is up to the reactor; time is counted in microseconds.
-/

namespace SipSimple.Lookup

/-- The delayed call of `data.pop(key, None)`, with the dictionary it was made for. -/
structure PopCall (Key : Type) where
  dict : Nat
  key : Key
  due : Nat
  deriving DecidableEq, Repr

/-- `dict` tells the dictionary `data` from the ones before it, which only their calls refer to. -/
structure DNSCache (Key Value : Type) where
  dict : Nat
  data : Key → Option Value
  calls : List (PopCall Key)
  clock : Nat

inductive CacheInput (Key Value : Type) where
  | put (key : Key) (value : Value)
  | flush (key : Option Key)
  | elapse (duration : Nat)
  /-- The reactor runs a delayed call. -/
  | run (call : PopCall Key)

namespace DNSCache

variable {Key Value : Type} [DecidableEq Key]

/-- `DNSCache()` -/
def new (clock : Nat) : DNSCache Key Value where
  dict := 0
  data := fun _ => none
  calls := []
  clock := clock

def get (cache : DNSCache Key Value) (key : Key) : Option Value := cache.data key

/-- `data.pop(key, None)` -/
def pop (cache : DNSCache Key Value) (key : Key) : DNSCache Key Value :=
  { cache with data := Function.update cache.data key none }

/-- An hour. -/
def maximum : Nat := 3600 * 1000000

variable (expiration : Value → Nat)

def put (cache : DNSCache Key Value) (key : Key) (value : Value) : DNSCache Key Value :=
  if cache.clock < expiration value then
    { cache with
      data := Function.update cache.data key (some value)
      calls := cache.calls ++ [⟨cache.dict, key, cache.clock + min (expiration value - cache.clock) maximum⟩] }
  else cache

def flush (cache : DNSCache Key Value) : Option Key → DNSCache Key Value
  | some key => cache.pop key
  | none => { cache with dict := cache.dict + 1, data := fun _ => none }

/-- A call runs when it is due, and once. It takes the key out of its own dictionary. -/
def runCall (cache : DNSCache Key Value) (call : PopCall Key) : DNSCache Key Value :=
  if call ∈ cache.calls ∧ call.due ≤ cache.clock then
    let popped := if call.dict = cache.dict then cache.pop call.key else cache
    { popped with calls := cache.calls.erase call }
  else cache

def step (cache : DNSCache Key Value) : CacheInput Key Value → DNSCache Key Value
  | .put key value => cache.put expiration key value
  | .flush key => cache.flush key
  | .elapse duration => { cache with clock := cache.clock + duration }
  | .run call => cache.runCall call

/-- The value that was put last for each key, unless it was flushed. -/
def book (cache : DNSCache Key Value) (book : Key → Option Value) : CacheInput Key Value → Key → Option Value
  | .put key value => if cache.clock < expiration value then Function.update book key (some value) else book
  | .flush (some key) => Function.update book key none
  | .flush none => fun _ => none
  | _ => book

/-- The book at the end of a run. -/
def booked (cache : DNSCache Key Value) (entries : Key → Option Value) : List (CacheInput Key Value) → Key → Option Value
  | [] => entries
  | input :: inputs => booked (cache.step expiration input) (cache.book expiration entries input) inputs

/-- A value is the one in the book, and a call that is due before it expires removes it. -/
def Sound (cache : DNSCache Key Value) (entries : Key → Option Value) : Prop :=
  ∀ key value, cache.data key = some value → entries key = some value ∧
    ∃ call ∈ cache.calls, call.dict = cache.dict ∧ call.key = key ∧ call.due ≤ expiration value ∧
      call.due ≤ cache.clock + maximum

variable {expiration}

theorem sound_put {cache : DNSCache Key Value} {entries : Key → Option Value} (h : cache.Sound expiration entries)
    (key : Key) (value : Value) :
    (cache.put expiration key value).Sound expiration (cache.book expiration entries (.put key value)) := by
  rw [put, book]
  split
  next hfresh =>
    intro other found hfound
    by_cases hkey : other = key
    · subst hkey
      simp only [Function.update_self, Option.some.injEq] at hfound
      subst hfound
      refine ⟨Function.update_self .., _, List.mem_append_right _ (List.mem_singleton_self _), rfl, rfl, ?_, ?_⟩
      · show cache.clock + min (expiration value - cache.clock) maximum ≤ expiration value
        omega
      · show cache.clock + min (expiration value - cache.clock) maximum ≤ cache.clock + maximum
        omega
    · simp only [Function.update_of_ne hkey] at hfound
      obtain ⟨hentry, call, hcall, hcalled⟩ := h other found hfound
      exact ⟨by rwa [Function.update_of_ne hkey], call, List.mem_append_left _ hcall, hcalled⟩
  next => exact h

theorem sound_pop {cache : DNSCache Key Value} {entries : Key → Option Value} (h : cache.Sound expiration entries)
    (key : Key) : (cache.pop key).Sound expiration (Function.update entries key none) := by
  intro other found hfound
  by_cases hkey : other = key
  · subst hkey
    simp [pop] at hfound
  · simp only [pop, Function.update_of_ne hkey] at hfound
    rw [Function.update_of_ne hkey]
    exact h other found hfound

/-- The calls of the other keys are all still there, and those of the other dictionaries change nothing. -/
theorem sound_runCall {cache : DNSCache Key Value} {entries : Key → Option Value} (h : cache.Sound expiration entries)
    (call : PopCall Key) : (cache.runCall call).Sound expiration entries := by
  rw [runCall]
  split
  next =>
    dsimp only
    split
    next hdict =>
      intro other found hfound
      by_cases hkey : other = call.key
      · subst hkey
        simp [pop] at hfound
      · obtain ⟨hentry, given, hgiven, hcurrent, rfl, hdue⟩ := h other found (by simpa [pop, hkey] using hfound)
        have hne : given ≠ call := fun heq => hkey (heq ▸ rfl)
        exact ⟨hentry, given, (List.mem_erase_of_ne hne).mpr hgiven, hcurrent, rfl, hdue⟩
    next hdict =>
      intro other found hfound
      obtain ⟨hentry, given, hgiven, hcurrent, hdue⟩ := h other found hfound
      have hne : given ≠ call := fun heq => hdict (heq ▸ hcurrent)
      exact ⟨hentry, given, (List.mem_erase_of_ne hne).mpr hgiven, hcurrent, hdue⟩
  next => exact h

theorem sound_step {cache : DNSCache Key Value} {entries : Key → Option Value} (h : cache.Sound expiration entries)
    (input : CacheInput Key Value) :
    (cache.step expiration input).Sound expiration (cache.book expiration entries input) := by
  cases input with
  | put key value => exact sound_put h key value
  | flush key =>
      cases key with
      | some key => exact sound_pop h key
      | none =>
          intro key value hvalue
          cases hvalue
  | elapse duration =>
      intro key value hvalue
      obtain ⟨hentry, call, hcall, hdict, hkey, hdue, hbound⟩ := h key value hvalue
      refine ⟨hentry, call, hcall, hdict, hkey, hdue, ?_⟩
      show call.due ≤ cache.clock + duration + maximum
      omega
  | run call => exact sound_runCall h call

theorem sound_run {cache : DNSCache Key Value} {entries : Key → Option Value} (h : cache.Sound expiration entries)
    (inputs : List (CacheInput Key Value)) :
    (Runs.run (step expiration) cache inputs).Sound expiration (booked expiration cache entries inputs) := by
  induction inputs generalizing cache entries with
  | nil => exact h
  | cons input inputs ih => exact ih (sound_step h input)

variable (expiration)

/-- **The cache is never stale**: after any run, once the calls that are due have run, a value that it returns is the
one that was put last under the key and not flushed since, it has not expired, and a call removes it within an hour. -/
theorem get_fresh (clock : Nat) (inputs : List (CacheInput Key Value)) {key : Key} {value : Value}
    (hget : (Runs.run (step expiration) (new clock) inputs).get key = some value)
    (hrun : ∀ call ∈ (Runs.run (step expiration) (new clock) inputs).calls,
      (Runs.run (step expiration) (new clock) inputs).clock < call.due) :
    booked expiration (new clock) (fun _ => none) inputs key = some value ∧
      (Runs.run (step expiration) (new clock) inputs).clock < expiration value ∧
      ∃ call ∈ (Runs.run (step expiration) (new clock) inputs).calls,
        call.dict = (Runs.run (step expiration) (new clock) inputs).dict ∧ call.key = key ∧
        call.due ≤ (Runs.run (step expiration) (new clock) inputs).clock + maximum := by
  have hnew : (new clock : DNSCache Key Value).Sound expiration fun _ => none := by
    intro key value hvalue
    cases hvalue
  obtain ⟨hentry, call, hcall, hdict, hkey, hdue, hbound⟩ := sound_run hnew inputs key value hget
  exact ⟨hentry, Nat.lt_of_lt_of_le (hrun call hcall) hdue, call, hcall, hdict, hkey, hbound⟩

/-- A value is put, the cache is flushed, another value is put under the key, and the call of the first runs. -/
def flushed : List (CacheInput Bool Nat) :=
  [.put true 1000000, .flush none, .put true 7200000000, .elapse 2000000, .run ⟨0, true, 1000000⟩]

theorem get_fresh_flushed : ∃ value, (Runs.run (step fun expiration => expiration) (new 0) flushed).get true = some value ∧
    booked (fun expiration => expiration) (new 0) (fun _ => none) flushed true = some value :=
  ⟨7200000000, by decide, (get_fresh (fun expiration => expiration) 0 flushed (by decide) (by decide)).1⟩

end DNSCache

end SipSimple.Lookup
