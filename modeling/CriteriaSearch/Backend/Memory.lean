import CriteriaSearch.Backend.Cursor
import CriteriaSearch.Text.Digits
import CriteriaSearch.Text.Pieces

/-!
# An index in memory

An index in memory answers requests from a list of documents.  It does not evaluate queries: every
document matches.  A cursor over the documents hands out handles that say where the next batch
starts and how many hits it holds, and it refuses what is no such handle.  Alternatively the batches
of cursors are laid down one by one, and it does not matter with which handles they are asked for.

To try out what a search does when things go wrong, an index can refuse kinds of calls and lose
cursors after some batches.  It keeps a record of everything that it was asked.
-/

namespace CriteriaSearch

/-- The kinds of calls that an index answers. -/
inductive CallKind where
  | search
  | scrollStart
  | scrollNext
  | count
  | get
  deriving DecidableEq

/-- The name of a kind of call. -/
def CallKind.name : CallKind → String
  | .search => "search"
  | .scrollStart => "scroll_start"
  | .scrollNext => "scroll_next"
  | .count => "count"
  | .get => "get"

/-- A call as an index has seen it. -/
inductive SeenCall where
  | search (body : Json)
  | scrollStart (body : Json) (keepAlive : String)
  | scrollNext (scrollId keepAlive : String)
  | count (query : Json)
  | get (id : String)
  deriving DecidableEq, Inhabited

/-- An index in memory. -/
structure MemoryIndex where
  docs : List Hit := []
  /-- How many documents the index says that it holds. -/
  total : UInt64
  /-- The batches of every cursor, if they are laid down. -/
  batches : Option (List ScrollPage) := none
  /-- How many batches a cursor brings before it is lost. -/
  cursorLimit : Option Nat := none
  /-- The kinds of calls that the index refuses. -/
  refuses : List CallKind := []
  deriving Inhabited

namespace MemoryIndex

/-- What changes while an index answers. -/
structure State where
  /-- How many batches the current cursor has brought. -/
  position : Nat := 0
  /-- The calls so far. -/
  seen : List SeenCall := []
  deriving Inhabited

/-- The handle of a cursor that goes on at an offset. -/
def handle (offset size : Nat) : String :=
  String.ofList (Nat.toDigits 10 offset ++ ':' :: Nat.toDigits 10 size)

/-- The number that decimal digits go on to write.  It has to fit into a word. -/
def numberFrom (n : Nat) : List Char → Answer Nat
  | [] => .ok n
  | c :: rest =>
    match Text.digit? c with
    | none => .error ⟨"invalid digit found in string"⟩
    | some digit =>
      if 10 * n + digit < UInt64.size then numberFrom (10 * n + digit) rest
      else .error ⟨"number too large to fit in target type"⟩

/-- The number that decimal digits write, perhaps after a plus sign. -/
def number : List Char → Answer Nat
  | [] => .error ⟨"cannot parse integer from empty string"⟩
  | '+' :: c :: rest => numberFrom 0 (c :: rest)
  | cs => numberFrom 0 cs

/-- The offset and the size that a handle holds. -/
def readHandle (scrollId : String) : Answer (Nat × Nat) :=
  match Text.cut ':' scrollId.toList with
  | (_, []) => .error ⟨s!"bad scroll id {scrollId}"⟩
  | (offset, later) => do return (← number offset, ← number (Text.joined [':'] later))

private theorem eq_of_numberFrom {cs : List Char} {n read : Nat}
    (fits : numberFrom n cs = .ok read) : read = Nat.ofDigitChars 10 cs n := by
  induction cs generalizing n with
  | nil =>
      cases fits
      rfl
  | cons c rest ih =>
      unfold numberFrom at fits
      split at fits
      · cases fits
      · next digit written =>
        have value : c.toNat - '0'.toNat = digit := by
          unfold Text.digit? at written
          split at written
          · exact Option.some.inj written
          · cases written
        split at fits
        · rw [ih fits, Nat.ofDigitChars_cons, value]
        · cases fits

private theorem number_of_isDigit {cs : List Char} (inhabited : cs ≠ [])
    (digits : ∀ c ∈ cs, c.isDigit = true) : number cs = numberFrom 0 cs := by
  unfold number
  split
  · exact absurd rfl inhabited
  · exact absurd (digits '+' List.mem_cons_self) (by decide)
  · rfl

private theorem isDigit_of_mem_toDigits {n : Nat} {c : Char} (digit : c ∈ Nat.toDigits 10 n) :
    c.isDigit = true :=
  Nat.isDigit_of_mem_toDigits (by decide) (by decide) digit

private theorem colon_not_mem_toDigits (n : Nat) : ':' ∉ Nat.toDigits 10 n :=
  fun listed => absurd (isDigit_of_mem_toDigits listed) (by decide)

private theorem eq_of_number_toDigits {n read : Nat}
    (fits : number (Nat.toDigits 10 n) = .ok read) : read = n := by
  rw [number_of_isDigit Nat.toDigits_ne_nil fun _ => isDigit_of_mem_toDigits] at fits
  rw [eq_of_numberFrom fits, Nat.ofDigitChars_toDigits (by decide) (by decide)]

/-- A handle that can be read holds what it was made for. -/
theorem eq_of_readHandle_handle {offset size : Nat} {read : Nat × Nat}
    (readable : readHandle (handle offset size) = .ok read) : read = (offset, size) := by
  have pieces : Text.cut ':' (handle offset size).toList =
      (Nat.toDigits 10 offset, [Nat.toDigits 10 size]) := by
    rw [handle, String.toList_ofList, Text.cut_append (colon_not_mem_toDigits offset),
      Text.cut_of_not_mem (colon_not_mem_toDigits size)]
  unfold readHandle at readable
  rw [pieces] at readable
  simp only [Text.joined] at readable
  cases offsetRead : number (Nat.toDigits 10 offset) with
  | error problem =>
      rw [offsetRead] at readable
      cases readable
  | ok first =>
      cases sizeRead : number (Nat.toDigits 10 size) with
      | error problem =>
          rw [offsetRead, sizeRead] at readable
          cases readable
      | ok second =>
          rw [offsetRead, sizeRead] at readable
          cases readable
          rw [eq_of_number_toDigits offsetRead, eq_of_number_toDigits sizeRead]

/-- The documents from one position up to another. -/
def window (docs : List Hit) (start stop : Nat) : List Hit :=
  (docs.take stop).drop start

/-- The batch that a cursor over the documents brings from an offset on. -/
def batchFrom (index : MemoryIndex) (offset size : Nat) : ScrollPage :=
  let stop := min (offset + size) index.docs.length
  { scrollId := some (handle stop size), hits := window index.docs offset stop }

/-- Whether the current cursor has brought as many batches as it can. -/
def isLost (index : MemoryIndex) (state : State) : Bool :=
  match index.cursorLimit with
  | some limit => limit ≤ state.position
  | none => false

/-- The batch at a position of a cursor that goes on at an offset. -/
def batchAt (index : MemoryIndex) (offset size position : Nat) : ScrollPage :=
  match index.batches with
  | some batches => batches.getD position { scrollId := none, hits := [] }
  | none => index.batchFrom offset size

/-- The next batch of a cursor that goes on at an offset, unless the cursor is lost. -/
def batch (index : MemoryIndex) (offset size : Nat) (state : State) :
    Answer ScrollPage × State :=
  if index.isLost state then (.error ⟨"scroll context lost"⟩, state)
  else
    (.ok (index.batchAt offset size state.position),
      { state with position := state.position + 1 })

/-- Records a call, and answers it unless calls of its kind are refused. -/
def answer {α : Type} (index : MemoryIndex) (kind : CallKind) (call : SeenCall) (state : State)
    (respond : State → Answer α × State) : Answer α × State :=
  let state := { state with seen := state.seen ++ [call] }
  if index.refuses.contains kind then (.error ⟨s!"{kind.name} refused"⟩, state)
  else respond state

/-- Where the cursor with a handle goes on, and how many hits its batches hold. -/
def resume (index : MemoryIndex) (scrollId : String) : Answer (Nat × Nat) :=
  match index.batches with
  | some _ => .ok (0, 0)
  | none => readHandle scrollId

/-- The answer to a call for the next batch. -/
def scrollNext (index : MemoryIndex) (scrollId keepAlive : String) (state : State) :
    Answer ScrollPage × State :=
  index.answer .scrollNext (.scrollNext scrollId keepAlive) state fun state =>
    match index.resume scrollId with
    | .error problem => (.error problem, state)
    | .ok (offset, size) => index.batch offset size state

/-- The index as a backend. -/
def backend (index : MemoryIndex) : Backend State where
  search request state :=
    index.answer .search (.search request.body) state fun state =>
      let stop := min (request.start + request.size) index.docs.length
      (.ok { total := index.total, hits := window index.docs request.start stop }, state)
  scrollStart request state :=
    index.answer .scrollStart (.scrollStart request.body request.keepAlive) state fun state =>
      index.batch 0 request.size { state with position := 0 }
  scrollNext := index.scrollNext
  count query state :=
    index.answer .count (.count query.source) state fun state => (.ok index.total, state)
  get id state :=
    index.answer .get (.get id) state fun state => (.ok (index.docs.find? (·.id = id)), state)

/-! ## Every cursor comes to an end -/

/-- A bound on the batches that a cursor can still bring from an offset on. -/
def left (index : MemoryIndex) (offset position : Nat) : Nat :=
  match index.batches with
  | some batches => batches.length - position
  | none => index.docs.length - offset

/-- A bound on the batches that the cursor with a handle can still bring. -/
def remaining (index : MemoryIndex) (state : State) (scrollId : String) : Nat :=
  match index.resume scrollId with
  | .ok (offset, _) => index.left offset state.position
  | .error _ => 0

variable {index : MemoryIndex}

private theorem lt_of_window_ne_nil {docs : List Hit} {start stop : Nat}
    (filled : window docs start stop ≠ []) : start < min stop docs.length := by
  have some : 0 < (window docs start stop).length := List.length_pos_iff.mpr filled
  rw [window, List.length_drop, List.length_take] at some
  omega

private theorem remaining_batchAt_lt {offset size position : Nat} {seen : List SeenCall}
    {next : String} (filled : (index.batchAt offset size position).hits ≠ [])
    (handed : (index.batchAt offset size position).scrollId = some next) :
    index.remaining { position := position + 1, seen } next < index.left offset position := by
  cases laid : index.batches with
  | some batches =>
      simp only [batchAt, laid] at filled
      simp only [remaining, resume, left, laid]
      rcases Nat.lt_or_ge position batches.length with within | beyond
      · exact Nat.sub_succ_lt_self _ _ within
      · rw [List.getD_eq_getElem?_getD, List.getElem?_eq_none beyond] at filled
        exact absurd rfl filled
  | none =>
      simp only [batchAt, laid, batchFrom, Option.some.injEq] at filled handed
      subst handed
      have further := lt_of_window_ne_nil filled
      simp only [remaining, resume, left, laid]
      split
      · next readable =>
        cases eq_of_readHandle_handle readable
        omega
      · omega

/-- A batch with hits and a handle leaves fewer batches to come. -/
theorem isMeasure_remaining : index.backend.IsMeasure index.remaining := by
  intro scrollId keepAlive before after page next answered filled handed
  simp only [backend, scrollNext, answer] at answered
  split at answered
  · cases answered
  split at answered
  · cases answered
  · next offset size resumed =>
    unfold batch at answered
    split at answered
    · cases answered
    · cases answered
      rw [remaining.eq_def index before, resumed]
      exact remaining_batchAt_lt filled handed

instance : index.backend.Finite :=
  .of_measure isMeasure_remaining

end MemoryIndex

end CriteriaSearch
