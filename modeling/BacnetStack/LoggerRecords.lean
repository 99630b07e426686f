import BacnetStack.LoggerTags
import Mathlib.Data.List.Induction

namespace BacnetStack

/-!
# Records of the logger

What a record is made of, and the tag that a call of the logger gives it: the
base tag, the tags of the scopes and the tag of the call, with slashes
in between and cut off where the buffer ends.
-/

inductive BacnetLogLevel where
  | off
  | fatal
  | error
  | warn
  | info
  | debug
  | trace
  deriving Repr, DecidableEq

namespace BacnetLogLevel

/-- The value of the enumeration. -/
def toNat : BacnetLogLevel → Nat
  | off => 0
  | fatal => 1
  | error => 2
  | warn => 3
  | info => 4
  | debug => 5
  | trace => 6

end BacnetLogLevel

def isVerboseLevel (level : BacnetLogLevel) : Bool :=
  level = .debug || level = .trace

def isLevelAllowed (level threshold : BacnetLogLevel) : Bool :=
  if level = .off ∨ threshold = .off then false
  else decide (level.toNat ≤ threshold.toNat)

abbrev kMaxMessageLength : Nat := 192

structure BacnetLogRecord where
  level : BacnetLogLevel := .info
  tag : LogTag
  message : LogTag
  timestampMs : UInt32 := 0
  component : LogTag := none
  event : LogTag := none
  deriving Repr, DecidableEq

/-- '/' -/
abbrev tagSeparator : UInt8 := 47

/-- "BACnet" -/
abbrev defaultTag : List UInt8 := [66, 65, 67, 110, 101, 116]

/-- The `append` of `buildTag`, on what is in the buffer already. -/
def appendTag
    (bufferSize : Nat)
    (buffer : List UInt8)
    (value : LogTag) : List UInt8 :=
  let text := value.getD []
  if text = [] ∨ bufferSize - 1 ≤ buffer.length then
    buffer
  else
    let separated := if buffer = [] then [] else buffer ++ [tagSeparator]
    separated ++ text.take (bufferSize - separated.length - 1)

/-- `buildTag`; the scopes come outermost first. -/
def buildTag {kMaxTagDepth : Nat}
    (baseTag : List UInt8)
    (tagStack : LogTagStack kMaxTagDepth)
    (explicitTag : LogTag)
    (bufferSize : Nat) : List UInt8 :=
  let built :=
    (some baseTag :: (tagStack.tags.reverse.map some ++ [explicitTag])).foldl
      (appendTag bufferSize) []
  if built = [] then appendTag bufferSize [] (some defaultTag) else built

/-- Texts with slashes in between. -/
def joinTags (texts : List (List UInt8)) : List UInt8 :=
  [tagSeparator].intercalate texts

/-- The parts of a tag that say something. -/
def tagParts (values : List LogTag) : List (List UInt8) :=
  (values.map (Option.getD · [])).filter (· ≠ [])

theorem joinTags_concat
    {texts : List (List UInt8)}
    (nonempty : texts ≠ [])
    (text : List UInt8) :
    joinTags (texts ++ [text]) = joinTags texts ++ tagSeparator :: text := by
  induction texts with
  | nil =>
      exact absurd rfl nonempty
  | cons first rest inductionHypothesis =>
      rcases rest with _ | ⟨second, rest⟩
      · simp [joinTags, List.intercalate]
      · have later := inductionHypothesis (List.cons_ne_nil second rest)
        simp only [joinTags, List.intercalate, List.cons_append,
          List.intersperse_cons_cons, List.flatten_cons] at later ⊢
        rw [later]
        simp

theorem joinTags_ne_nil
    {texts : List (List UInt8)}
    (nonempty : texts ≠ [])
    (noneEmpty : ∀ text ∈ texts, text ≠ []) :
    joinTags texts ≠ [] := by
  induction texts using List.reverseRecOn with
  | nil =>
      exact absurd rfl nonempty
  | append_singleton texts text _ =>
      rcases eq_or_ne texts [] with rfl | another
      · have isText := noneEmpty text (List.mem_singleton_self text)
        simpa [joinTags, List.intercalate] using isText
      · rw [joinTags_concat another]
        exact List.append_ne_nil_of_right_ne_nil _
          (List.cons_ne_nil tagSeparator text)

theorem tagParts_concat
    (values : List LogTag)
    (value : LogTag) :
    tagParts (values ++ [value]) =
      tagParts values ++ if value.getD [] = [] then [] else [value.getD []] := by
  unfold tagParts
  rw [List.map_append, List.filter_append]
  by_cases isEmpty : value.getD [] = []
  · simp [isEmpty]
  · simp [isEmpty]

/-- One part more, in a buffer that is cut off. -/
theorem appendTag_take
    (bufferSize : Nat)
    {texts : List (List UInt8)}
    (noneEmpty : ∀ text ∈ texts, text ≠ [])
    {value : LogTag}
    (isPart : value.getD [] ≠ []) :
    appendTag bufferSize ((joinTags texts).take (bufferSize - 1)) value =
      (joinTags (texts ++ [value.getD []])).take (bufferSize - 1) := by
  have length_take :=
    @List.length_take _ (bufferSize - 1) (joinTags texts)
  unfold appendTag
  dsimp only
  rcases Nat.lt_or_ge (joinTags texts).length (bufferSize - 1) with
    isRoom | isFull
  · have whole :
        (joinTags texts).take (bufferSize - 1) = joinTags texts :=
      List.take_of_length_le (Nat.le_of_lt isRoom)
    rw [whole, if_neg (by
      rintro (isEmpty | isFull)
      · exact isPart isEmpty
      · exact Nat.not_le.mpr isRoom isFull)]
    rcases eq_or_ne texts [] with rfl | another
    · have nothing : joinTags [] = [] := rfl
      have alone : joinTags ([] ++ [value.getD []]) = value.getD [] := by
        simp [joinTags, List.intercalate]
      rw [nothing, if_pos rfl, alone]
      rfl
    · rw [if_neg (joinTags_ne_nil another noneEmpty), joinTags_concat another,
        List.take_append, List.take_of_length_le (Nat.le_of_lt isRoom),
        List.append_assoc, List.length_append, List.length_singleton]
      have left :
          bufferSize - 1 - (joinTags texts).length =
            bufferSize - ((joinTags texts).length + 1) - 1 + 1 := by
        omega
      rw [left, List.take_succ_cons]
      rfl
  · rw [if_pos (.inr (by omega))]
    rcases eq_or_ne texts [] with rfl | another
    · have noRoom : bufferSize - 1 = 0 := Nat.le_zero.mp isFull
      rw [noRoom, List.take_zero, List.take_zero]
    · rw [joinTags_concat another, List.take_append_of_le_length isFull]

/-- The buffer holds as much of the joined parts as there is room for. -/
theorem foldl_appendTag
    (bufferSize : Nat)
    (values : List LogTag) :
    values.foldl (appendTag bufferSize) [] =
      (joinTags (tagParts values)).take (bufferSize - 1) := by
  induction values using List.reverseRecOn with
  | nil =>
      rw [List.foldl_nil, tagParts, List.map_nil, List.filter_nil]
      exact List.take_nil.symm
  | append_singleton values value inductionHypothesis =>
      have noneEmpty : ∀ text ∈ tagParts values, text ≠ [] := by
        intro text isText
        exact of_decide_eq_true (List.mem_filter.mp isText).2
      rw [List.foldl_concat, inductionHypothesis, tagParts_concat]
      by_cases isEmpty : value.getD [] = []
      · rw [if_pos isEmpty, List.append_nil, appendTag,
          if_pos (.inl isEmpty)]
      · rw [if_neg isEmpty, appendTag_take bufferSize noneEmpty isEmpty]

/-- What a tag says, if there is room for all of it. -/
def wholeTag (values : List LogTag) : List UInt8 :=
  if tagParts values = [] then defaultTag else joinTags (tagParts values)

/--
The tag of a call: the parts that say something, outermost first and with
slashes in between, or else the name of the stack, as far as they fit.
-/
theorem buildTag_eq
    {kMaxTagDepth : Nat}
    (baseTag : List UInt8)
    (tagStack : LogTagStack kMaxTagDepth)
    (explicitTag : LogTag)
    (bufferSize : Nat) :
    buildTag baseTag tagStack explicitTag bufferSize =
      (wholeTag (some baseTag ::
        (tagStack.tags.reverse.map some ++ [explicitTag]))).take
          (bufferSize - 1) := by
  unfold buildTag wholeTag
  dsimp only
  generalize some baseTag :: (tagStack.tags.reverse.map some ++ [explicitTag])
    = values
  have noneEmpty : ∀ text ∈ tagParts values, text ≠ [] := by
    intro text isText
    exact of_decide_eq_true (List.mem_filter.mp isText).2
  have alone :
      appendTag bufferSize [] (some defaultTag) =
        defaultTag.take (bufferSize - 1) := by
    have isDefault : (some defaultTag).getD [] ≠ [] :=
      List.cons_ne_nil _ _
    have appended :=
      @appendTag_take bufferSize [] (by simp) (some defaultTag) isDefault
    simpa [joinTags, List.intercalate] using appended
  rw [foldl_appendTag]
  by_cases nothing : tagParts values = []
  · rw [nothing, if_pos rfl]
    exact (if_pos List.take_nil).trans alone
  · rw [if_neg nothing]
    have isJoined := joinTags_ne_nil nothing noneEmpty
    split
    · rename_i isEmpty
      have noRoom : bufferSize - 1 = 0 :=
        (List.take_eq_nil_iff.mp isEmpty).resolve_right isJoined
      rw [alone, noRoom, List.take_zero, List.take_zero]
    · rfl

end BacnetStack
