import Mathlib.Data.List.Induction
import SqlTemplate.Composer.Program

/-!
This file follows a composer through the actions of its caller. What one action may do is said once: it appends
tokens, or changes the values and the mark of the last expression, or leaves the tokens alone. What a token has
become after a whole run, and which misuse is remembered, is derived from it.
-/

namespace SqlTemplate

/-- A call on the expression appended last, with what it is given. -/
inductive Mutation where
  | nullable (value : Option Value)
  | setNullable (isAbsent : Bool)
  | bind (value : Value)

namespace Mutation

/-- The name under which a misuse of the call is reported. -/
def call : Mutation → ExpressionCall
  | .nullable _ => .nullable
  | .setNullable _ => .setNullable
  | .bind _ => .bind

/-- What the call does to an expression. -/
def change : Mutation → Expression → Expression
  | .nullable value, body => body.whenPresent value
  | .setNullable isAbsent, body => body.setAbsent isAbsent
  | .bind value, body => body.bind value

/-- The values that the call binds. -/
def values : Mutation → List Value
  | .nullable value => value.toList
  | .setNullable _ => []
  | .bind value => [value]

/-- Whether the expression is absent, if the call says so. -/
def mark? : Mutation → Option Bool
  | .nullable value => some value.isNone
  | .setNullable isAbsent => some isAbsent
  | .bind _ => none

/-- A call binds its values behind those that are bound already and keeps the template. -/
theorem change_eq (mutation : Mutation) (body : Expression) :
    mutation.change body =
      { body with
        isAbsent := mutation.mark?.getD body.isAbsent
        values := body.values ++ mutation.values } := by
  cases mutation with
  | nullable value => cases value <;> simp [change, Expression.whenPresent, mark?, values]
  | setNullable isAbsent => simp [change, Expression.setAbsent, mark?, values]
  | bind value => simp [change, Expression.bind, mark?, values]

/-- Calls one after the other bind their values in this order, and the last of them that says whether the
expression is absent decides. -/
theorem foldl_change (mutations : List Mutation) (body : Expression) :
    mutations.foldl (fun changed mutation => mutation.change changed) body =
      { body with
        isAbsent := (mutations.filterMap mark?).getLast?.getD body.isAbsent
        values := body.values ++ mutations.flatMap values } := by
  induction mutations using List.reverseRecOn with
  | nil => simp
  | append_singleton earlier last inductionHypothesis =>
      rw [List.foldl_append, List.foldl_cons, List.foldl_nil, inductionHypothesis, change_eq]
      cases marked : last.mark? <;> simp [marked]

end Mutation

namespace Token

/-- The token after calls on it. -/
def mutated (token : Token) (mutations : List Mutation) : Token :=
  mutations.foldl (fun changed mutation => changed.mapExpression mutation.change) token

theorem mutated_concat (token : Token) (earlier : List Mutation) (last : Mutation) :
    token.mutated (earlier ++ [last]) = (token.mutated earlier).mapExpression last.change := by
  rw [mutated, List.foldl_append]
  rfl

theorem mutated_append (token : Token) (earlier later : List Mutation) :
    token.mutated (earlier ++ later) = (token.mutated earlier).mutated later :=
  List.foldl_append

/-- Calls change the expression behind a token and nothing else. -/
theorem mutated_eq (token : Token) (mutations : List Mutation) :
    token.mutated mutations = token.mapExpression fun body =>
      { body with
        isAbsent := (mutations.filterMap Mutation.mark?).getLast?.getD body.isAbsent
        values := body.values ++ mutations.flatMap Mutation.values } := by
  have onExpression : token.mutated mutations = token.mapExpression fun body =>
      mutations.foldl (fun changed mutation => mutation.change changed) body := by
    induction mutations using List.reverseRecOn with
    | nil => cases token <;> rfl
    | append_singleton earlier last inductionHypothesis =>
        rw [mutated_concat, inductionHypothesis]
        cases token <;> simp [mapExpression]
  simp only [onExpression, Mutation.foldl_change]

/-- A token without an expression has nothing to change. -/
theorem mapExpression_of_none (change : Expression → Expression) {token : Token}
    (without : token.expression? = none) : token.mapExpression change = token := by
  cases token <;> first | rfl | cases without

theorem expression?_of_other {token : Token} (other : token.isExpression = false) :
    token.expression? = none := by
  cases token <;> first | rfl | cases other

/-- Of the tokens that stand for an expression, only the one that was left out has none. -/
theorem eq_omitted {token : Token} (isExpression : token.isExpression = true)
    (without : token.expression? = none) : token = .omitted := by
  cases token with
  | omitted => rfl
  | expression | columnExpression => cases without
  | _ => cases isExpression

end Token

/-- A caller takes a step, or builds the statement as it is so far. -/
inductive Action where
  | step (step : Step)
  | build

namespace Action

/-- The call that an action makes on the last expression. -/
def mutation? : Action → Option Mutation
  | .step (.nullable value) => some (.nullable value)
  | .step (.setNullable isAbsent) => some (.setNullable isAbsent)
  | .step (.bind value) => some (.bind value)
  | _ => none

/-- The tokens that an action appends. -/
def spelled : Action → List Token
  | .step (.append clause) => clause.spelled
  | _ => []

theorem spelled_of_mutation? {action : Action} {mutation : Mutation}
    (isCall : action.mutation? = some mutation) : action.spelled = [] := by
  cases action with
  | build => rfl
  | step step => cases step <;> first | rfl | cases isCall

/-- A call on tokens that end with no expression, not even with one that was left out, is a misuse. -/
inductive Misused (tokens : List Token) (action : Action) : StateFault → Prop where
  | noToken {mutation : Mutation} (isCall : action.mutation? = some mutation)
      (empty : tokens = []) : Misused tokens action (.noToken mutation.call)
  | noExpression {mutation : Mutation} {front : List Token} {last : Token}
      (isCall : action.mutation? = some mutation) (split : tokens = front ++ [last])
      (other : last.isExpression = false) :
      Misused tokens action (.noExpression mutation.call last)

variable {tokens : List Token} {action : Action}

theorem Misused.unique {cause other : StateFault} (misused : action.Misused tokens cause)
    (again : action.Misused tokens other) : cause = other := by
  cases misused with
  | noToken isCall empty =>
      cases again with
      | noToken alsoCall => rw [Option.some.inj (isCall.symm.trans alsoCall)]
      | noExpression alsoCall split => simp [empty] at split
  | noExpression isCall split =>
      cases again with
      | noToken alsoCall empty => simp [empty] at split
      | noExpression alsoCall alsoSplit =>
          obtain ⟨-, rfl⟩ := List.append_singleton_inj.mp (split.symm.trans alsoSplit)
          rw [Option.some.inj (isCall.symm.trans alsoCall)]

/-- A misuse is a call, and the tokens do not end with what stands for an expression. -/
theorem Misused.inv {cause : StateFault} (misused : action.Misused tokens cause) :
    (∃ mutation, action.mutation? = some mutation) ∧
      ∀ front last, tokens = front ++ [last] → last.isExpression = false := by
  cases misused with
  | noToken isCall empty =>
      refine ⟨⟨_, isCall⟩, fun front last split => ?_⟩
      simp [empty] at split
  | noExpression isCall split other =>
      refine ⟨⟨_, isCall⟩, fun front last alsoSplit => ?_⟩
      obtain ⟨-, rfl⟩ := List.append_singleton_inj.mp (split.symm.trans alsoSplit)
      exact other

/-- The calls of actions on the token at a place. They are made while it is the last of the tokens, of which
there are so many before the actions. -/
def callsOn (place : Nat) : Nat → List Action → List Mutation
  | _, [] => []
  | count, action :: rest =>
      (if place + 1 = count then action.mutation?.toList else []) ++
        callsOn place (count + action.spelled.length) rest

end Action

namespace Composer

variable {composer next : Composer} {action : Action}

/-- What an action may make of a composer. It touches no token but the last one, and of that one only the
values and the mark of its expression. -/
inductive Framed (composer : Composer) : Action → Composer → Prop where
  | appended (clause : Clause) :
      Framed composer (.step (.append clause))
        { composer with tokens := composer.tokens ++ clause.spelled }
  | changed {action : Action} {mutation : Mutation} {front : List Token} {last : Token}
      {body : Expression} (isCall : action.mutation? = some mutation)
      (split : composer.tokens = front ++ [last]) (found : last.expression? = some body) :
      Framed composer action
        { composer with
          tokens := front ++ [last.mapExpression fun body =>
            { body with
              isAbsent := mutation.mark?.getD body.isAbsent
              values := body.values ++ mutation.values }] }
  | leftOut {action : Action} {mutation : Mutation} {front : List Token}
      (isCall : action.mutation? = some mutation) (split : composer.tokens = front ++ [.omitted]) :
      Framed composer action composer
  | misused {action : Action} {cause : StateFault}
      (misused : action.Misused composer.tokens cause) :
      Framed composer action { composer with misuse := composer.misuse.or (some cause) }
  | withoutMelting : Framed composer (.step .withoutMelting) { composer with melts := false }
  | context (change : Context.Change) :
      Framed composer (.step (.context change))
        { composer with context := composer.context.after change }
  | build : Framed composer .build composer

theorem framed_changeLast (mutation : Mutation) (isCall : action.mutation? = some mutation) :
    composer.Framed action (composer.changeLast mutation.call mutation.change) := by
  rw [changeLast]
  split
  · rename_i empty
    exact .misused (.noToken isCall (List.getLast?_eq_none_iff.mp empty))
  · rename_i last found
    obtain ⟨front, split⟩ := List.getLast?_eq_some_iff.mp found
    split
    · rename_i isExpression
      cases within : last.expression? with
      | some body =>
          have changed := Framed.changed isCall split within
          simpa only [split, List.dropLast_concat, ← Mutation.change_eq] using changed
      | none =>
          obtain rfl : last = .omitted := Token.eq_omitted isExpression within
          have kept : { composer with tokens := composer.tokens.dropLast ++
              [Token.omitted.mapExpression mutation.change] } = composer := by
            rw [split, List.dropLast_concat]
            exact congrArg (fun tokens => { composer with tokens := tokens }) split.symm
          rw [kept]
          exact .leftOut isCall split
    · rename_i other
      exact .misused (.noExpression isCall split (Bool.eq_false_iff.mpr other))

/-- Every step does what an action may do. -/
theorem framed_after (composer : Composer) (step : Step) :
    composer.Framed (.step step) (composer.after step) := by
  cases step with
  | append clause => exact .appended clause
  | withoutMelting => exact .withoutMelting
  | context change => exact .context change
  | nullable value => exact framed_changeLast (.nullable value) rfl
  | setNullable isAbsent => exact framed_changeLast (.setNullable isAbsent) rfl
  | bind value => exact framed_changeLast (.bind value) rfl

namespace Framed

/-- A call keeps the number of tokens. -/
theorem length (framed : composer.Framed action next) :
    next.tokens.length = composer.tokens.length + action.spelled.length := by
  cases framed with
  | appended clause => exact List.length_append
  | changed isCall split => simp [split, Action.spelled_of_mutation? isCall]
  | leftOut isCall => simp [Action.spelled_of_mutation? isCall]
  | misused misused =>
      obtain ⟨⟨mutation, isCall⟩, -⟩ := misused.inv
      simp [Action.spelled_of_mutation? isCall]
  | withoutMelting | context | build => rfl

/-- The last token is changed in its place. -/
theorem getElem?_changedLast (change : Expression → Expression) (front : List Token) (last : Token)
    (place : Nat) :
    (front ++ [last.mapExpression change])[place]? = (front ++ [last])[place]?.map fun token =>
      if place + 1 = (front ++ [last]).length then token.mapExpression change else token := by
  rcases Nat.lt_trichotomy place front.length with inFront | rfl | behind
  · simp [List.getElem?_append_left inFront, Nat.ne_of_lt inFront]
  · simp
  · have outside (final : Token) : (front ++ [final])[place]? = none :=
      List.getElem?_eq_none (by simpa [Nat.succ_le_iff] using behind)
    rw [outside, outside]
    rfl

/-- A call changes the token at the last place, and every other token stays. -/
theorem tokens (framed : composer.Framed action next) (place : Nat) :
    next.tokens[place]? = (composer.tokens ++ action.spelled)[place]?.map fun token =>
      token.mutated (if place + 1 = composer.tokens.length then action.mutation?.toList else []) := by
  have ofCall {mutation : Mutation} {front : List Token} {last : Token}
      (isCall : action.mutation? = some mutation) (split : composer.tokens = front ++ [last]) :
      (front ++ [last.mapExpression mutation.change])[place]? =
        (composer.tokens ++ action.spelled)[place]?.map fun token => token.mutated
          (if place + 1 = composer.tokens.length then action.mutation?.toList else []) := by
    rw [getElem?_changedLast, Action.spelled_of_mutation? isCall, List.append_nil, isCall, split]
    congr 1
    funext token
    split <;> rfl
  have ofOther (noCall : action.mutation? = none) :
      (composer.tokens ++ action.spelled)[place]? =
        (composer.tokens ++ action.spelled)[place]?.map fun token => token.mutated
          (if place + 1 = composer.tokens.length then action.mutation?.toList else []) := by
    simp [noCall, Token.mutated]
  -- A misused call changes nothing, but the calls on the place count it all the same: on a token without an
  -- expression it has no effect.
  cases framed with
  | appended clause => exact ofOther rfl
  | changed isCall split found =>
      have changed := ofCall isCall split
      simpa only [← Mutation.change_eq] using changed
  | leftOut isCall split =>
      have kept := ofCall isCall split
      rwa [Token.mapExpression_of_none _ rfl, ← split] at kept
  | misused misused =>
      cases misused with
      | noToken isCall empty => simp [empty, Action.spelled_of_mutation? isCall]
      | noExpression isCall split other =>
          have kept := ofCall isCall split
          rwa [Token.mapExpression_of_none _ (Token.expression?_of_other other), ← split] at kept
  | withoutMelting | context | build => simpa [Action.spelled] using ofOther rfl

/-- The first misuse is kept, and a misuse is recorded when there is none. -/
theorem misuse (framed : composer.Framed action next) :
    (next.misuse = composer.misuse ∧ ∀ cause, ¬ action.Misused composer.tokens cause) ∨
      ∃ cause, action.Misused composer.tokens cause ∧
        next.misuse = composer.misuse.or (some cause) := by
  cases framed with
  | misused misused => exact .inr ⟨_, misused, rfl⟩
  | changed isCall split found =>
      refine .inl ⟨rfl, fun cause misused => ?_⟩
      rw [Token.expression?_of_other (misused.inv.2 _ _ split)] at found
      cases found
  | leftOut isCall split =>
      refine .inl ⟨rfl, fun cause misused => ?_⟩
      cases misused.inv.2 _ _ split
  | appended | withoutMelting | context | build =>
      refine .inl ⟨rfl, fun cause misused => ?_⟩
      obtain ⟨⟨mutation, isCall⟩, -⟩ := misused.inv
      cases isCall

end Framed

end Composer

/-- A composer and the answers that its builds gave so far. -/
structure Session where
  composer : Composer
  answers : List (Except Fault Statement) := []

namespace Session

open SqlTemplate.Action

variable {session : Session}

/-- A session starts with a fresh composer. -/
def start (topology : Option Locator) : Session :=
  { composer := Composer.fresh topology }

/-- The session after an action. -/
def after (session : Session) : Action → Session
  | .step taken => { session with composer := session.composer.after taken }
  | .build => { session with answers := session.answers ++ [session.composer.build] }

/-- The session after actions. -/
def run (session : Session) (actions : List Action) : Session :=
  actions.foldl after session

@[simp] theorem run_nil (session : Session) : session.run [] = session := rfl

@[simp] theorem run_cons (session : Session) (action : Action) (actions : List Action) :
    session.run (action :: actions) = (session.after action).run actions := rfl

theorem run_append (session : Session) (first second : List Action) :
    session.run (first ++ second) = (session.run first).run second := by
  simp [run, List.foldl_append]

theorem framed (session : Session) (action : Action) :
    session.composer.Framed action (session.after action).composer := by
  cases action with
  | step taken => exact session.composer.framed_after taken
  | build => exact .build

/-- After actions, the token at each place is the one that was appended there, with the calls on it. -/
theorem tokens_run (session : Session) (actions : List Action) (place : Nat) :
    (session.run actions).composer.tokens[place]? =
      (session.composer.tokens ++ actions.flatMap spelled)[place]?.map fun token =>
        token.mutated (callsOn place session.composer.tokens.length actions) := by
  induction actions generalizing session with
  | nil => simp [callsOn, Token.mutated]
  | cons action rest inductionHypothesis =>
      have framed := session.framed action
      rw [run_cons, inductionHypothesis, callsOn, List.flatMap_cons, ← List.append_assoc,
        framed.length]
      -- A place that exists after the action may be the last one before it. One that is filled later is not.
      rcases Nat.lt_or_ge place (session.after action).composer.tokens.length with there | later
      · have alsoThere : place < (session.composer.tokens ++ action.spelled).length := by
          rwa [List.length_append, ← framed.length]
        rw [List.getElem?_append_left there, List.getElem?_append_left alsoThere, framed.tokens,
          Option.map_map]
        congr 1
        funext token
        rw [Function.comp_apply, ← Token.mutated_append]
      · have notLast : place + 1 ≠ session.composer.tokens.length := by
          rw [framed.length] at later
          omega
        rw [if_neg notLast, List.nil_append, List.getElem?_append_right later,
          List.getElem?_append_right (by rwa [List.length_append, ← framed.length]),
          List.length_append, framed.length]

/-- No call in the actions is a misuse. -/
def UsedWell (session : Session) (actions : List Action) : Prop :=
  ∀ before action after cause, actions = before ++ action :: after →
    ¬ action.Misused (session.run before).composer.tokens cause

theorem usedWell_cons {action : Action} {rest : List Action} :
    session.UsedWell (action :: rest) ↔
      (∀ cause, ¬ action.Misused session.composer.tokens cause) ∧
        (session.after action).UsedWell rest := by
  constructor
  · intro usedWell
    refine ⟨fun cause => usedWell [] action rest cause rfl, ?_⟩
    rintro before next after cause rfl
    exact usedWell (action :: before) next after cause rfl
  · rintro ⟨proper, usedWell⟩ before next after cause split
    cases before with
    | nil =>
        obtain ⟨rfl, rfl⟩ := List.cons.inj split
        exact proper cause
    | cons first before =>
        obtain ⟨rfl, rfl⟩ := List.cons.inj split
        exact usedWell before next after cause rfl

/-- A misuse is remembered through all later actions. -/
theorem misuse_run {cause : StateFault} (present : session.composer.misuse = some cause)
    (actions : List Action) : (session.run actions).composer.misuse = some cause := by
  induction actions generalizing session with
  | nil => exact present
  | cons action rest inductionHypothesis =>
      apply inductionHypothesis
      rcases (session.framed action).misuse with ⟨kept, -⟩ | ⟨other, -, recorded⟩
      · rw [kept, present]
      · rw [recorded, present]
        rfl

/-- All builds after a misuse are refused with it. -/
theorem answers_run {cause : StateFault} (present : session.composer.misuse = some cause)
    (actions : List Action) :
    ∃ answers, (session.run actions).answers = session.answers ++ answers ∧
      ∀ answer ∈ answers, answer = .error (.state cause) := by
  induction actions generalizing session with
  | nil => exact ⟨[], by simp, nofun⟩
  | cons action rest inductionHypothesis =>
      have still : (session.after action).composer.misuse = some cause := misuse_run present [action]
      obtain ⟨answers, grown, refused⟩ := inductionHypothesis still
      cases action with
      | step taken => exact ⟨answers, grown, refused⟩
      | build =>
          have answered : session.composer.build = .error (.state cause) := by
            rw [Composer.build, present]
          refine ⟨session.composer.build :: answers, ?_, ?_⟩
          · rw [run_cons, grown, after, List.append_assoc]
            rfl
          · simpa [answered] using refused

/-- Either no call is a misuse, or one of them is the first. -/
theorem usedWell_or_misused (session : Session) (actions : List Action) :
    session.UsedWell actions ∨ ∃ before action after cause, actions = before ++ action :: after ∧
      session.UsedWell before ∧ action.Misused (session.run before).composer.tokens cause := by
  induction actions generalizing session with
  | nil => exact .inl fun before action after cause split => by cases before <;> cases split
  | cons action rest inductionHypothesis =>
      by_cases proper : ∀ cause, ¬ action.Misused session.composer.tokens cause
      · rcases inductionHypothesis (session.after action) with
          usedWell | ⟨before, next, after, cause, rfl, usedWell, misused⟩
        · exact .inl (usedWell_cons.mpr ⟨proper, usedWell⟩)
        · exact .inr ⟨action :: before, next, after, cause, rfl,
            usedWell_cons.mpr ⟨proper, usedWell⟩, misused⟩
      · push Not at proper
        obtain ⟨cause, misused⟩ := proper
        refine .inr ⟨[], action, rest, cause, rfl, ?_, misused⟩
        exact fun before next after cause split => by cases before <;> cases split

theorem misuse_run_of_usedWell {actions : List Action} (usedWell : session.UsedWell actions) :
    (session.run actions).composer.misuse = session.composer.misuse := by
  induction actions generalizing session with
  | nil => rfl
  | cons action rest inductionHypothesis =>
      obtain ⟨proper, usedWell⟩ := usedWell_cons.mp usedWell
      rcases (session.framed action).misuse with ⟨kept, -⟩ | ⟨cause, misused, -⟩
      · rw [run_cons, inductionHypothesis usedWell, kept]
      · exact absurd misused (proper cause)

theorem misuse_run_of_misused (proper : session.composer.misuse = none) {before after : List Action}
    {action : Action} {cause : StateFault} (usedWell : session.UsedWell before)
    (misused : action.Misused (session.run before).composer.tokens cause) :
    (session.run (before ++ action :: after)).composer.misuse = some cause := by
  rw [run_append, run_cons]
  apply misuse_run
  rcases ((session.run before).framed action).misuse with ⟨-, notMisused⟩ | ⟨other, again, recorded⟩
  · exact absurd misused (notMisused cause)
  · rw [recorded, misuse_run_of_usedWell usedWell, proper, again.unique misused]
    rfl

/-- A composer without a misuse remembers none after actions exactly when there is none among them. -/
theorem misuse_run_eq_none_iff (proper : session.composer.misuse = none) (actions : List Action) :
    (session.run actions).composer.misuse = none ↔ session.UsedWell actions := by
  constructor
  · intro none
    rcases session.usedWell_or_misused actions with
      usedWell | ⟨before, action, after, cause, rfl, usedWell, misused⟩
    · exact usedWell
    · rw [misuse_run_of_misused proper usedWell misused] at none
      cases none
  · intro usedWell
    rw [misuse_run_of_usedWell usedWell, proper]

/-- The misuse that a composer without one remembers after actions is the first one among them. -/
theorem misuse_run_eq_some_iff (proper : session.composer.misuse = none) (actions : List Action)
    (cause : StateFault) :
    (session.run actions).composer.misuse = some cause ↔
      ∃ before action after, actions = before ++ action :: after ∧ session.UsedWell before ∧
        action.Misused (session.run before).composer.tokens cause := by
  constructor
  · intro present
    rcases session.usedWell_or_misused actions with
      usedWell | ⟨before, action, after, other, rfl, usedWell, misused⟩
    · rw [misuse_run_of_usedWell usedWell, proper] at present
      cases present
    · rw [misuse_run_of_misused proper usedWell misused] at present
      cases present
      exact ⟨before, action, after, rfl, usedWell, misused⟩
  · rintro ⟨before, action, after, rfl, usedWell, misused⟩
    exact misuse_run_of_misused proper usedWell misused

/-- Each action on a fresh composer appends tokens, or changes the values and the mark of the last expression,
or leaves the tokens alone. After any actions, an expression has the values that its calls bound, in their
order, and the mark that the last of them gave it; the misuse that is remembered is the first one, there is
one exactly when a call was misused, and from then on it stays and every build is refused with it. -/
theorem session_of_actions (topology : Option Locator) (actions : List Action) :
    (∀ before action after, actions = before ++ action :: after →
      ((start topology).run before).composer.Framed action
        ((start topology).run (before ++ [action])).composer) ∧
    (∀ place, ((start topology).run actions).composer.tokens[place]? =
      (actions.flatMap spelled)[place]?.map fun token : Token => token.mapExpression fun body =>
        { body with
          isAbsent := ((callsOn place 0 actions).filterMap Mutation.mark?).getLast?.getD body.isAbsent
          values := body.values ++ (callsOn place 0 actions).flatMap Mutation.values }) ∧
    (∀ cause, ((start topology).run actions).composer.misuse = some cause ↔
      ∃ before action after, actions = before ++ action :: after ∧
        (start topology).UsedWell before ∧
          action.Misused ((start topology).run before).composer.tokens cause) ∧
    (((start topology).run actions).composer.misuse = none ↔ (start topology).UsedWell actions) ∧
    ∀ before after cause, actions = before ++ after →
      ((start topology).run before).composer.misuse = some cause →
        ((start topology).run actions).composer.misuse = some cause ∧
          ∃ answers, ((start topology).run actions).answers =
              ((start topology).run before).answers ++ answers ∧
            ∀ answer ∈ answers, answer = .error (.state cause) := by
  refine ⟨?_, fun place => ?_, misuse_run_eq_some_iff rfl actions, misuse_run_eq_none_iff rfl actions,
    ?_⟩
  · rintro before action after rfl
    rw [run_append]
    exact framed _ action
  · simp only [← Token.mutated_eq]
    exact tokens_run (start topology) actions place
  · rintro before after cause rfl present
    rw [run_append]
    exact ⟨misuse_run present after, answers_run present after⟩

/-- A range is marked as absent and gets a bound all the same. -/
def boundRange : List Action :=
  [.step (.append (.comparison .between "age")), .step (.nullable none), .step (.bind (.integer 30)),
    .step (.append (.select ["id"]))]

/-- A value for a column is refused. What comes after it neither clears the misuse nor touches the range. -/
theorem session_of_boundRange :
    let actions := boundRange ++ [.step (.bind (.integer 5)), .build, .step (.setNullable false), .build]
    ((start none).run actions).composer.tokens[0]? =
        some (.columnExpression "age"
          { template := "\x7b\x7d BETWEEN ? AND ?", isAbsent := true, values := [.integer 30] }) ∧
      ((start none).run actions).composer.misuse =
        some (.noExpression .bind (.column { name := "id" })) ∧
      ((start none).run actions).answers.length = 2 := by
  intro actions
  obtain ⟨-, tokens, first, -⟩ := session_of_actions none actions
  obtain ⟨-, -, -, proper, -⟩ := session_of_actions none boundRange
  have isCall : mutation? (.step (.bind (.integer 5))) = some (.bind (.integer 5)) := rfl
  have split : ((start none).run boundRange).composer.tokens =
      ((start none).run boundRange).composer.tokens.take 2 ++ [.column { name := "id" }] := rfl
  refine ⟨?_, ?_, rfl⟩
  · rw [tokens 0]
    rfl
  · rw [first]
    exact ⟨boundRange, _, _, rfl, proper.mp rfl, .noExpression isCall split rfl⟩

end Session

end SqlTemplate
