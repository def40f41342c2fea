/-
This file weighs what `json.loads` reads by the text alone, whatever structure the text has.
-/

import Pxtly.Foundation.JsonReader

namespace Pxtly.Foundation

section Weights

/-- A backslash outweighs every character that an escape can stand for. -/
def heavyCode (code : Nat) : Nat := if code = 92 then 2 else if code = 117 ∨ code < 32 then 1 else 0

def textWeight (text : List Char) : Nat := (text.map fun c => heavyCode c.toNat).sum

mutual

/-- The letters of a constant count, those of a number have no weight. -/
def Json.weight : Json → Nat
  | .null => textWeight "null".toList
  | .bool value => textWeight (if value then "true".toList else "false".toList)
  | .integer _ => 0
  | .number _ => 0
  | .string value => textWeight value.toList
  | .array items => itemsWeight items
  | .object members => membersWeight members

def itemsWeight : List Json → Nat
  | [] => 0
  | item :: rest => item.weight + itemsWeight rest

def membersWeight : List (String × Json) → Nat
  | [] => 0
  | member :: rest => memberWeight member + membersWeight rest

def memberWeight : String × Json → Nat
  | (name, value) => textWeight name.toList + value.weight

end

def Frame.weight : Frame → Nat
  | .array items => itemsWeight items
  | .object members key => membersWeight members + textWeight key.toList

def Phase.weight : Phase → Nat
  | .value => 0
  | .text quoted => textWeight quoted.text
  | .word letters => textWeight letters
  | .key members => membersWeight members
  | .keyText members quoted => membersWeight members + textWeight quoted.text
  | .colon members name => membersWeight members + textWeight name.toList
  | .after read => read.weight

def Loader.weight (loader : Loader) : Nat := (loader.stack.map Frame.weight).sum + loader.phase.weight

/-- Only a string has escapes. -/
def Loader.mode (loader : Loader) : EscapeMode :=
  match loader.phase with
  | .text quoted => quoted.mode
  | .keyText _ quoted => quoted.mode
  | _ => .plain

/-- No part of a pair of surrogates has a weight. -/
def unitWeight (unit : Nat) : Nat :=
  if 0xd800 ≤ unit ∧ unit < 0xe000 then 0 else heavyCode (Char.ofNat unit).toNat

def EscapeMode.admits : EscapeMode → Char → Bool
  | .plain, _ => true
  | .slash, c => c == 'u' || (simpleEscape c).isSome
  | .hex _ _, c => (hexValue c).isSome

def EscapeMode.next : EscapeMode → Char → EscapeMode
  | .plain, c => if c = '\\' then .slash else .plain
  | .slash, c => if c = 'u' then .hex 0 0 else .plain
  | .hex count value, c =>
      if count = 3 then .plain else .hex (count + 1) (16 * value + (hexValue c).getD 0)

/-- A control character outside strings is a space and has no weight. -/
def EscapeMode.gain : EscapeMode → Char → Nat
  | .plain, c => if c = '\\' ∨ c.toNat < 32 then 0 else heavyCode c.toNat
  | .slash, c => ((simpleEscape c).map fun d => heavyCode d.toNat).getD 0
  | .hex count value, c => if count = 3 then unitWeight (16 * value + (hexValue c).getD 0) else 0

/-- The weight of what is read follows the text without its structure. -/
def weigh (state : EscapeMode × Nat) (c : Char) : Option (EscapeMode × Nat) :=
  if state.1.admits c then some (state.1.next c, state.2 + state.1.gain c) else none

theorem textWeight_append (first second : List Char) :
    textWeight (first ++ second) = textWeight first + textWeight second := by
  rw [textWeight, List.map_append, List.sum_append]
  rfl

theorem textWeight_singleton (c : Char) : textWeight [c] = heavyCode c.toNat := by
  simp [textWeight]

theorem itemsWeight_append (items : List Json) (value : Json) :
    itemsWeight (items ++ [value]) = itemsWeight items + value.weight := by
  induction items with
  | nil => simp [itemsWeight]
  | cons item items inductionHypothesis => simp [itemsWeight, inductionHypothesis, Nat.add_assoc]

theorem membersWeight_append (members : List (String × Json)) (key : String) (value : Json) :
    membersWeight (members ++ [(key, value)]) = membersWeight members + textWeight key.toList + value.weight := by
  induction members with
  | nil => simp [membersWeight, memberWeight]
  | cons member members inductionHypothesis => simp [membersWeight, inductionHypothesis, Nat.add_assoc]

theorem weight_of_push {quoted next : QuotedText} {c : Char} (pushed : quoted.push c = some next) :
    next.mode = .plain ∧ textWeight next.text = textWeight quoted.text + heavyCode c.toNat := by
  unfold QuotedText.push at pushed
  split at pushed
  next =>
    obtain rfl := Option.some.inj pushed
    exact ⟨rfl, by rw [textWeight_append, textWeight_singleton]⟩
  next => cases pushed

theorem weight_of_unit {quoted next : QuotedText} {unit : Nat} (read : quoted.unit unit = some next) :
    next.mode = .plain ∧ textWeight next.text = textWeight quoted.text + unitWeight unit := by
  unfold QuotedText.unit at read
  split at read
  next high _ =>
    split at read
    next isLow =>
      obtain rfl := Option.some.inj read
      have bound := high.isLt
      have valid : (0x10000 + high * 0x400 + (unit - 0xdc00)).isValidChar := by
        right
        omega
      have code : (Char.ofNat (0x10000 + high * 0x400 + (unit - 0xdc00))).toNat =
          0x10000 + high * 0x400 + (unit - 0xdc00) := by
        rw [Char.ofNat, dif_pos valid]
        rfl
      have light : heavyCode (0x10000 + high * 0x400 + (unit - 0xdc00)) = 0 := by
        unfold heavyCode
        rw [if_neg (by omega), if_neg (by omega)]
      have surrogate : unitWeight unit = 0 := if_pos (by omega)
      exact ⟨rfl, by rw [textWeight_append, textWeight_singleton, code, light, surrogate]⟩
    next => cases read
  next =>
    split at read
    next isHigh =>
      obtain rfl := Option.some.inj read
      have surrogate : unitWeight unit = 0 := if_pos (by omega)
      exact ⟨rfl, by rw [surrogate]; rfl⟩
    next notHigh =>
      split at read
      next => cases read
      next notLow =>
        obtain rfl := Option.some.inj read
        have character : unitWeight unit = heavyCode (Char.ofNat unit).toNat := if_neg (by omega)
        exact ⟨rfl, by rw [textWeight_append, textWeight_singleton, character]⟩

theorem weigh_eq_some {mode : EscapeMode} {c : Char} (admitted : mode.admits c = true) (total : Nat) :
    weigh (mode, total) c = some (mode.next c, total + mode.gain c) := if_pos admitted

/-- A step in a string weighs the text of the string. -/
theorem weigh_of_quoted {quoted next : QuotedText} {c : Char} (fed : quoted.feed c = some next) (others : Nat) :
    weigh (quoted.mode, others + textWeight quoted.text) c = some (next.mode, others + textWeight next.text) := by
  have step (admitted : quoted.mode.admits c = true) (mode : next.mode = quoted.mode.next c)
      (weight : textWeight next.text = textWeight quoted.text + quoted.mode.gain c) :
      weigh (quoted.mode, others + textWeight quoted.text) c = some (next.mode, others + textWeight next.text) := by
    rw [weigh_eq_some admitted, mode, weight, Nat.add_assoc]
  unfold QuotedText.feed at fed
  split at fed
  next plain =>
    rw [plain] at step ⊢
    split at fed
    next slash =>
      obtain rfl := Option.some.inj fed
      exact step rfl (by simp [EscapeMode.next, slash]) (by simp [EscapeMode.gain, slash])
    next notSlash =>
      split at fed
      next => cases fed
      next visible =>
        obtain ⟨mode, weight⟩ := weight_of_push fed
        exact step rfl (by simp [EscapeMode.next, notSlash, mode]) (by simp [EscapeMode.gain, notSlash, visible, weight])
  next slash =>
    rw [slash] at step ⊢
    split at fed
    next isUnit =>
      obtain rfl := Option.some.inj fed
      subst isUnit
      exact step rfl rfl rfl
    next notUnit =>
      obtain ⟨letter, stands, pushed⟩ := Option.bind_eq_some_iff.mp fed
      obtain ⟨mode, weight⟩ := weight_of_push pushed
      exact step (by simp [EscapeMode.admits, stands]) (by simp [EscapeMode.next, notUnit, mode])
        (by simp [EscapeMode.gain, stands, weight])
  next count value hex =>
    rw [hex] at step ⊢
    obtain ⟨digit, read, rest⟩ := Option.bind_eq_some_iff.mp fed
    split at rest
    next last =>
      obtain ⟨mode, weight⟩ := weight_of_unit rest
      exact step (by simp [EscapeMode.admits, read]) (by simp [EscapeMode.next, last, mode])
        (by simp [EscapeMode.gain, last, read, weight])
    next more =>
      obtain rfl := Option.some.inj rest
      exact step (by simp [EscapeMode.admits, read]) (by simp [EscapeMode.next, more, read])
        (by simp [EscapeMode.gain, more])

theorem weigh_of_quotedRun {quoted last : QuotedText} {text : List Char}
    (run : text.foldlM QuotedText.feed quoted = some last) (others : Nat) :
    text.foldlM weigh (quoted.mode, others + textWeight quoted.text) = some (last.mode, others + textWeight last.text) :=
  foldlM_simulates (fun quoted => (quoted.mode, others + textWeight quoted.text))
    (fun _ _ _ fed => weigh_of_quoted fed others) run

/-- The literal of a number has digits, signs, a point and the letter of its power. -/
theorem light_of_step {phase next : NumberPhase} {c : Char} (stepped : phase.step c = some next) :
    heavyCode c.toNat = 0 := by
  have named : c ∈ ['-', '+', '0', '.', 'e', 'E'] ∨ c.isDigit = true := by
    unfold NumberPhase.step at stepped
    split at stepped <;> grind
  rcases named with mark | digit
  · have marks : ∀ d ∈ ['-', '+', '0', '.', 'e', 'E'], heavyCode d.toNat = 0 := by simp [heavyCode]
    exact marks c mark
  · simp only [Char.isDigit, Bool.and_eq_true, decide_eq_true_eq, UInt32.le_iff_toNat_le, ge_iff_le] at digit
    have low : 48 ≤ c.toNat := digit.1
    have high : c.toNat ≤ 57 := digit.2
    unfold heavyCode
    rw [if_neg (by omega), if_neg (by omega)]

theorem light_of_foldlM {phase last : NumberPhase} {word : List Char}
    (scanned : word.foldlM NumberPhase.step phase = some last) : textWeight word = 0 := by
  induction word generalizing phase with
  | nil => rfl
  | cons c word inductionHypothesis =>
      obtain ⟨next, stepped, rest⟩ := foldlM_cons_eq_some.mp scanned
      rw [textWeight, List.map_cons, List.sum_cons, light_of_step stepped, Nat.zero_add]
      exact inductionHypothesis rest

variable {readFloat : String → Float}

theorem weight_of_readNumber {word : List Char} {value : Json} (read : readNumber readFloat word = some value) :
    value.weight = textWeight word := by
  unfold readNumber at read
  split at read
  next scanned =>
    obtain rfl := Option.some.inj read
    rw [light_of_foldlM scanned]
    rfl
  next scanned =>
    split at read
    next =>
      obtain rfl := Option.some.inj read
      rw [light_of_foldlM scanned]
      rfl
    next => cases read
  next scanned =>
    obtain rfl := Option.some.inj read
    rw [light_of_foldlM scanned]
    rfl
  next scanned =>
    obtain rfl := Option.some.inj read
    rw [light_of_foldlM scanned]
    rfl
  next => cases read

theorem weight_of_readWord {word : List Char} {value : Json} (read : readWord readFloat word = some value) :
    value.weight = textWeight word := by
  unfold readWord at read
  split_ifs at read with isNull isTrue isFalse isConstant
  · obtain rfl := Option.some.inj read
    rw [isNull]
    rfl
  · obtain rfl := Option.some.inj read
    rw [isTrue]
    rfl
  · obtain rfl := Option.some.inj read
    rw [isFalse]
    rfl
  · obtain rfl := Option.some.inj read
    have constants : ∀ constant ∈ ["NaN".toList, "Infinity".toList, "-Infinity".toList], textWeight constant = 0 := by
      decide
    exact (constants word isConstant).symm
  · exact weight_of_readNumber read

/-- Between strings, a backslash is refused and a character without weight changes nothing. -/
theorem weigh_light {c : Char} (light : heavyCode c.toNat = 0 ∨ c.toNat < 32) (total : Nat) :
    weigh (.plain, total) c = some (.plain, total) := by
  have notSlash : c ≠ '\\' := by
    rintro rfl
    exact absurd light (by decide)
  have gain : EscapeMode.gain .plain c = 0 := by
    rcases light with weightless | control
    · simp [EscapeMode.gain, weightless]
    · simp [EscapeMode.gain, control]
  rw [weigh_eq_some rfl, gain, EscapeMode.next, if_neg notSlash, Nat.add_zero]

theorem weigh_wordChar {c : Char} (inWord : isWordChar c = true) (total : Nat) :
    weigh (.plain, total) c = some (.plain, total + heavyCode c.toNat) := by
  have notSlash : c ≠ '\\' := by
    rintro rfl
    exact absurd inWord (by decide)
  have visible : ¬ c.toNat < 32 := by
    intro control
    have controls : ∀ code < 32, isWordChar (Char.ofNat code) = false := by decide
    have other := controls c.toNat control
    rw [Char.ofNat_toNat, inWord] at other
    cases other
  rw [weigh_eq_some rfl, EscapeMode.next, if_neg notSlash, EscapeMode.gain, if_neg (not_or.mpr ⟨notSlash, visible⟩)]

theorem light_of_isJsonSpace {c : Char} (space : isJsonSpace c = true) : c.toNat < 32 ∨ heavyCode c.toNat = 0 := by
  have spaces : ∀ d ∈ [' ', '\t', '\n', '\r'], d.toNat < 32 ∨ heavyCode d.toNat = 0 := by simp [heavyCode]
  exact spaces c (of_decide_eq_true space)

/-- Behind a value, the automaton reads only characters without weight. -/
theorem weigh_of_afterValue {stack : List Frame} {value : Json} {next : Loader} {c : Char}
    (fed : Loader.afterValue stack value c = some next) :
    weigh (.plain, (stack.map Frame.weight).sum + value.weight) c = some (next.mode, next.weight) := by
  unfold Loader.afterValue at fed
  split at fed
  next space =>
    obtain rfl := Option.some.inj fed
    exact weigh_light (light_of_isJsonSpace space).symm _
  next =>
    split at fed
    next => cases fed
    next items outer =>
      split_ifs at fed with comma close
      · obtain rfl := Option.some.inj fed
        subst comma
        rw [weigh_light (by decide)]
        simp [Loader.mode, Loader.weight, Phase.weight, Frame.weight, itemsWeight_append]
        omega
      · obtain rfl := Option.some.inj fed
        subst close
        rw [weigh_light (by decide)]
        simp [Loader.mode, Loader.weight, Phase.weight, Frame.weight, itemsWeight_append, Json.weight]
        omega
    next members key outer =>
      split_ifs at fed with comma close
      · obtain rfl := Option.some.inj fed
        subst comma
        rw [weigh_light (by decide)]
        simp [Loader.mode, Loader.weight, Phase.weight, Frame.weight, membersWeight_append]
        omega
      · obtain rfl := Option.some.inj fed
        subst close
        rw [weigh_light (by decide)]
        simp [Loader.mode, Loader.weight, Phase.weight, Frame.weight, membersWeight_append, Json.weight]
        omega

theorem weight_mk (stack : List Frame) (phase : Phase) :
    Loader.weight ⟨stack, phase⟩ = (stack.map Frame.weight).sum + phase.weight := rfl

/-- Where a string ends, its closing quote has no weight. -/
theorem weigh_of_closes {quoted : QuotedText} {c : Char} (closes : quoted.closes c = true) (total : Nat) :
    weigh (quoted.mode, total) c = some (.plain, total) := by
  simp only [QuotedText.closes, Bool.and_eq_true, decide_eq_true_eq, beq_iff_eq] at closes
  rw [closes.1, closes.2]
  exact weigh_light (by decide) total

/-- The automaton steps as the weighing does. -/
theorem weigh_of_feed {loader next : Loader} {c : Char} (fed : loader.feed readFloat c = some next) :
    weigh (loader.mode, loader.weight) c = some (next.mode, next.weight) := by
  obtain ⟨stack, phase⟩ := loader
  rw [weight_mk]
  cases phase with
  | value =>
      simp only [Loader.feed] at fed
      split_ifs at fed with space quote brace bracket close letter
      · obtain rfl := Option.some.inj fed
        exact weigh_light (light_of_isJsonSpace space).symm _
      · obtain rfl := Option.some.inj fed
        subst quote
        exact weigh_light (by decide) _
      · obtain rfl := Option.some.inj fed
        subst brace
        exact weigh_light (by decide) _
      · obtain rfl := Option.some.inj fed
        subst bracket
        simp only [Loader.mode, weight_mk, List.map_cons, List.sum_cons, Frame.weight, itemsWeight, Nat.zero_add]
        exact weigh_light (by decide) _
      · subst close
        split at fed
        next outer =>
          obtain rfl := Option.some.inj fed
          simp only [Loader.mode, weight_mk, List.map_cons, List.sum_cons, Frame.weight, itemsWeight, Nat.zero_add]
          exact weigh_light (by decide) _
        next => cases fed
      · obtain rfl := Option.some.inj fed
        simp only [Loader.mode, weight_mk, Phase.weight, textWeight_singleton, Nat.add_zero]
        exact weigh_wordChar letter _
  | text quoted =>
      simp only [Loader.feed] at fed
      split_ifs at fed with closes whole
      · obtain rfl := Option.some.inj fed
        simp only [Loader.mode, weight_mk, Phase.weight, Json.weight, String.toList_ofList]
        exact weigh_of_closes closes _
      · obtain ⟨read, inner, rfl⟩ := Option.map_eq_some_iff.mp fed
        exact weigh_of_quoted inner _
  | word letters =>
      simp only [Loader.feed] at fed
      split_ifs at fed with letter
      · obtain rfl := Option.some.inj fed
        simp only [Loader.mode, weight_mk, Phase.weight, textWeight_append, textWeight_singleton, ← Nat.add_assoc]
        exact weigh_wordChar letter _
      · obtain ⟨value, read, rest⟩ := Option.bind_eq_some_iff.mp fed
        simp only [Loader.mode, Phase.weight, ← weight_of_readWord read]
        exact weigh_of_afterValue rest
  | key members =>
      simp only [Loader.feed] at fed
      split_ifs at fed with space quote close
      · obtain rfl := Option.some.inj fed
        exact weigh_light (light_of_isJsonSpace space).symm _
      · obtain rfl := Option.some.inj fed
        subst quote
        exact weigh_light (by decide) _
      · obtain rfl := Option.some.inj fed
        simp only [Bool.and_eq_true, decide_eq_true_eq, List.isEmpty_iff] at close
        obtain ⟨rfl, rfl⟩ := close
        exact weigh_light (by decide) _
  | keyText members quoted =>
      simp only [Loader.feed] at fed
      split_ifs at fed with closes whole
      · obtain rfl := Option.some.inj fed
        simp only [Loader.mode, weight_mk, Phase.weight, String.toList_ofList]
        exact weigh_of_closes closes _
      · obtain ⟨read, inner, rfl⟩ := Option.map_eq_some_iff.mp fed
        simp only [Loader.mode, weight_mk, Phase.weight, ← Nat.add_assoc]
        exact weigh_of_quoted inner _
  | colon members name =>
      simp only [Loader.feed] at fed
      split_ifs at fed with space colon
      · obtain rfl := Option.some.inj fed
        exact weigh_light (light_of_isJsonSpace space).symm _
      · obtain rfl := Option.some.inj fed
        subst colon
        simp only [Loader.mode, weight_mk, List.map_cons, List.sum_cons, Frame.weight, Phase.weight, Nat.add_zero,
          Nat.add_comm _ (stack.map Frame.weight).sum]
        exact weigh_light (by decide) _
  | after read => exact weigh_of_afterValue fed

/-- A whole run weighs the text that it reads. -/
theorem weigh_of_run {loader last : Loader} {text : List Char}
    (run : text.foldlM (Loader.feed readFloat) loader = some last) :
    text.foldlM weigh (loader.mode, loader.weight) = some (last.mode, last.weight) :=
  foldlM_simulates (fun loader => (loader.mode, loader.weight)) (fun _ _ _ fed => weigh_of_feed fed) run

theorem weight_of_finish {loader : Loader} {value : Json} (finished : loader.finish readFloat = some value) :
    loader.mode = .plain ∧ loader.weight = value.weight := by
  obtain ⟨stack, phase⟩ := loader
  cases stack with
  | cons frame outer => cases finished
  | nil =>
      rw [weight_mk, List.map_nil, List.sum_nil, Nat.zero_add]
      cases phase with
      | after read =>
          obtain rfl := Option.some.inj finished
          exact ⟨rfl, rfl⟩
      | word letters => exact ⟨rfl, (weight_of_readWord finished).symm⟩
      | value => cases finished
      | text quoted => cases finished
      | key members => cases finished
      | keyText members quoted => cases finished
      | colon members name => cases finished

/-- The weight of a decoded value is the weight of its text, which no structure changes. -/
theorem weigh_of_loads {text : List Char} {value : Json} (read : loads readFloat text = some value) :
    text.foldlM weigh (.plain, 0) = some (.plain, value.weight) := by
  obtain ⟨last, run, finished⟩ := Option.bind_eq_some_iff.mp read
  obtain ⟨mode, weight⟩ := weight_of_finish finished
  have ended := weigh_of_run run
  rw [mode, weight] at ended
  exact ended

end Weights

section Totals

/-- An escape still owes this weight. -/
def EscapeMode.slack : EscapeMode → Nat
  | .plain => 0
  | .slash => 1
  | .hex _ _ => 2

theorem heavyCode_le (code : Nat) : heavyCode code ≤ 2 := by
  unfold heavyCode
  split_ifs <;> omega

theorem unitWeight_le (unit : Nat) : unitWeight unit ≤ 2 := by
  unfold unitWeight
  split_ifs
  · exact Nat.zero_le 2
  · exact heavyCode_le _

/-- An escape is heavier than the character that it stands for. -/
theorem weigh_le {mode next : EscapeMode} {total later : Nat} {c : Char}
    (weighed : weigh (mode, total) c = some (next, later)) :
    later + next.slack ≤ total + heavyCode c.toNat + mode.slack := by
  unfold weigh at weighed
  split at weighed
  next admitted =>
    obtain ⟨rfl, rfl⟩ := Prod.mk.inj (Option.some.inj weighed)
    rw [Nat.add_assoc, Nat.add_assoc]
    apply Nat.add_le_add_left
    cases mode with
    | plain =>
        simp only [EscapeMode.gain, EscapeMode.next]
        by_cases slash : c = '\\'
        · subst slash
          decide
        · rw [if_neg slash]
          split_ifs
          · exact Nat.zero_le _
          · exact le_rfl
    | slash =>
        simp only [EscapeMode.gain, EscapeMode.next]
        by_cases isUnit : c = 'u'
        · subst isUnit
          decide
        · rw [if_neg isUnit]
          unfold simpleEscape
          split <;> first | decide | exact Nat.zero_le _
    | hex count value =>
        simp only [EscapeMode.gain, EscapeMode.next]
        have bound := unitWeight_le (16 * value + (hexValue c).getD 0)
        split_ifs
        · simp only [EscapeMode.slack]
          omega
        · simp only [EscapeMode.slack]
          omega
  next => cases weighed

theorem weigh_run_le {mode last : EscapeMode} {total final : Nat} {text : List Char}
    (run : text.foldlM weigh (mode, total) = some (last, final)) :
    final + last.slack ≤ total + textWeight text + mode.slack := by
  induction text generalizing mode total with
  | nil =>
      obtain ⟨rfl, rfl⟩ := Prod.mk.inj (Option.some.inj run)
      exact le_rfl
  | cons c text inductionHypothesis =>
      obtain ⟨⟨next, later⟩, weighed, rest⟩ := foldlM_cons_eq_some.mp run
      have here := weigh_le weighed
      have behind := inductionHypothesis rest
      rw [textWeight, List.map_cons, List.sum_cons]
      rw [textWeight] at behind
      omega

/-- A text that keeps all of its weight has no escapes and no control characters. -/
theorem plain_of_weigh {total : Nat} {last : EscapeMode} {text : List Char}
    (run : text.foldlM weigh (.plain, total) = some (last, total + textWeight text)) :
    ∀ c ∈ text, c ≠ '\\' ∧ 32 ≤ c.toNat := by
  induction text generalizing total with
  | nil => exact nofun
  | cons c text inductionHypothesis =>
      rw [List.foldlM_cons, weigh_eq_some rfl] at run
      have behind := weigh_run_le run
      have whole : textWeight (c :: text) = heavyCode c.toNat + textWeight text := rfl
      have here : c ≠ '\\' ∧ 32 ≤ c.toNat := by
        constructor
        · rintro rfl
          have weight : heavyCode ('\\'.toNat) = 2 := by decide
          simp only [EscapeMode.gain, EscapeMode.next, EscapeMode.slack, true_or, if_true] at behind
          omega
        · by_contra control
          have notSlash : c ≠ '\\' := by
            rintro rfl
            exact control (by decide)
          have weight : 1 ≤ heavyCode c.toNat := by
            unfold heavyCode
            split_ifs
            · omega
            · omega
            · omega
          have below : c.toNat < 32 := Nat.lt_of_not_le control
          simp only [EscapeMode.gain, EscapeMode.next, notSlash, below, or_true, if_true, if_false, EscapeMode.slack] at behind
          omega
      have gain : EscapeMode.gain .plain c = heavyCode c.toNat := if_neg (not_or.mpr ⟨here.1, Nat.not_lt.mpr here.2⟩)
      have mode : EscapeMode.next .plain c = .plain := if_neg here.1
      rw [gain, mode, whole, ← Nat.add_assoc] at run
      exact List.forall_mem_cons.mpr ⟨here, inductionHypothesis run⟩

end Totals

end Pxtly.Foundation
