import EscapeTime.Proofs.Formula.Lookahead

set_option autoImplicit false

namespace EscapeTime

-- The token that is blamed; none if it is the end of the tokens.
def Fault.position? : Fault → Option Nat
  | missingOperand _ | unclosedAtEnd => none
  | misplaced position _ | unclosed position _ | trailing _ position => some position

namespace Formula

open Grammar

variable {implicit : ImplicitFactor} {total : Nat} {fault : Fault}

-- The tokens make up what the task is to read. A chain that is under way may also go on with a product sign.
def Task.Derives (implicit : ImplicitFactor) : Task → List Token → Prop
  | .level tier _, ts => Nonempty (Derivation implicit (.level tier) ts)
  | .chain _, ts => Nonempty (Derivation implicit .chain ts) ∨
      ∃ op us, ts = op :: us ∧ op.kind = .dot ∧ implicit = .exponent ∧
        Nonempty (Derivation implicit (.level .product) us)

def Task.Fails (implicit : ImplicitFactor) (task : Task) (tokens : List Token) : Prop :=
  ∀ total reading, Descent ⟨.strict, implicit⟩ total (task.on tokens) reading → reading.fault ≠ none

-- The fault stands in front of `spot`: what was read before can be completed, and not with the token there.
def Blocked (implicit : ImplicitFactor) (total : Nat) (fault : Fault) (task : Task) : Prop :=
  ∃ read spot, task.tokens = read ++ spot ∧
    fault.position? = spot.head?.map (fun _ => total - spot.length) ∧
    (∃ more, more ≠ [] ∧ task.Derives implicit (read ++ more)) ∧
    ∀ token tail, spot = token :: tail → ∀ more, task.Fails implicit (read ++ token :: more)

theorem Blocked.within {task outer : Task} (front : List Token) (blocked : Blocked implicit total fault task)
    (tokens : outer.tokens = front ++ task.tokens)
    (completes : ∀ ts, task.Derives implicit ts → ∃ back, outer.Derives implicit (front ++ (ts ++ back)))
    (spoils : ∀ first rest others, task.tokens = first :: rest → task.Fails implicit (first :: others) →
      outer.Fails implicit (front ++ first :: others)) : Blocked implicit total fault outer := by
  obtain ⟨read, spot, split, place, ⟨more, present, derives⟩, refused⟩ := blocked
  refine ⟨front ++ read, spot, by rw [tokens, split, List.append_assoc], place, ?_, fun token tail next more => ?_⟩
  · obtain ⟨back, whole⟩ := completes _ derives
    refine ⟨more ++ back, fun empty => present (List.append_eq_nil_iff.mp empty).1, ?_⟩
    rwa [List.append_assoc, ← List.append_assoc read]
  · obtain ⟨first, rest, others, same, other⟩ := first_again read token tail more
    have fails := refused token tail next more
    rw [other] at fails
    rw [List.append_assoc, other]
    exact spoils first rest others (by rw [split, next, same]) fails

theorem Descent.keeps_fault {mode : ReadMode} {left whole : Reading}
    (descent : Descent mode total (.chain left) whole) (found : left.fault = some fault) :
    whole.fault = some fault := by
  generalize same : Task.chain left = task at descent
  induction descent generalizing left with
  | chainEnds _ =>
      obtain rfl := Task.chain.inj same
      exact found
  | chainFactor _ _ _ _ _ ih =>
      obtain rfl := Task.chain.inj same
      refine ih ?_ rfl
      rw [Reading.factor, Reading.binary, found, Option.some_or]
  | chainGoesOn _ _ _ _ _ =>
      obtain rfl := Task.chain.inj same
      rw [Reading.binary, found, Option.some_or]
  | _ => cases same

theorem close_keeps_fault {inner : Reading} (found : inner.fault = some fault) :
    (inner.close .strict total).fault = some fault := by
  obtain ⟨tree, _, rest⟩ := inner
  obtain rfl := found
  cases rest with
  | nil => rfl
  | cons token rest =>
      by_cases closes : token.kind = .rightParen
      · simp [Reading.close, closes]
      · simp [Reading.close, Reading.fail, closes]

theorem Task.read (mode : ReadMode) (total : Nat) (task : Task) : ∃ reading, Descent mode total task reading := by
  cases task with
  | level tier tokens => exact ⟨_, read_descent mode total tier tokens⟩
  | chain left => exact ⟨_, chain_descent mode total left⟩

-- What stands in front of the inner task was read without fault, so that its fault is the first one.
theorem Blocked.behind {task outer : Task} (front : List Token) (blocked : Blocked implicit total fault task)
    (tokens : outer.tokens = front ++ task.tokens)
    (derives : ∀ ts, task.Derives implicit ts → outer.Derives implicit (front ++ ts))
    (joins : ∀ total first rest others reading, task.tokens = first :: rest →
      Descent ⟨.strict, implicit⟩ total (task.on (first :: others)) reading →
      ∃ whole, Descent ⟨.strict, implicit⟩ total (outer.on (front ++ first :: others)) whole ∧
        whole.fault = reading.fault) : Blocked implicit total fault outer := by
  refine blocked.within front tokens (fun ts inner => ⟨[], ?_⟩)
    fun first rest others same fails total reading descent => ?_
  · rw [List.append_nil]
    exact derives ts inner
  · obtain ⟨part, inner⟩ := Task.read ⟨.strict, implicit⟩ total (task.on (first :: others))
    obtain ⟨whole, made, kept⟩ := joins total first rest others part same inner
    rw [descent.unique made, kept]
    exact fails total part inner

section Levels

variable {tokens : List Token}

theorem Blocked.loosen {inner outer : Level} (blocked : Blocked implicit total fault (.level inner tokens))
    (lifts : ∀ ts, Derivation implicit (.level inner) ts → Derivation implicit (.level outer) ts)
    (starts : ∀ total first rest others reading, tokens = first :: rest →
      Descent ⟨.strict, implicit⟩ total (.level outer (first :: others)) reading → reading.fault = none →
      ∃ part, Descent ⟨.strict, implicit⟩ total (.level inner (first :: others)) part ∧ part.fault = none) :
    Blocked implicit total fault (.level outer tokens) := by
  refine blocked.within [] rfl ?_ fun first rest others same fails total reading descent fine => ?_
  · rintro ts ⟨derivation⟩
    exact ⟨[], ⟨lifts _ ((List.append_nil ts).symm ▸ derivation)⟩⟩
  · obtain ⟨part, inner, fine⟩ := starts total first rest others reading same descent fine
    exact fails total part inner fine

theorem Blocked.sum (blocked : Blocked implicit total fault (.level .product tokens)) :
    Blocked implicit total fault (.level .sum tokens) := by
  refine blocked.loosen (fun _ => .product) fun total _ _ _ reading _ descent fine => ?_
  cases descent with
  | sumEnds first _ => exact ⟨_, first, fine⟩
  | sumGoesOn first _ _ _ => exact ⟨_, first, (Option.or_eq_none_iff.mp fine).1⟩

theorem Blocked.product (blocked : Blocked implicit total fault (.level .negation tokens)) :
    Blocked implicit total fault (.level .product tokens) := by
  refine blocked.loosen (fun _ => .negation) fun total _ _ _ reading _ descent fine => ?_
  cases descent with
  | productEnds first _ => exact ⟨_, first, fine⟩
  | productGoesOn first _ _ _ => exact ⟨_, first, (Option.or_eq_none_iff.mp fine).1⟩
  | productChains first _ _ chained => exact ⟨_, first, (sourced_of_descent chained fine).1⟩

theorem Blocked.power (blocked : Blocked implicit total fault (.level .quotient tokens)) :
    Blocked implicit total fault (.level .power tokens) := by
  refine blocked.loosen (fun _ => .quotient) fun total _ _ _ reading _ descent fine => ?_
  cases descent with
  | powerEnds first _ => exact ⟨_, first, fine⟩
  | powerGoesOn first _ _ _ => exact ⟨_, first, (Option.or_eq_none_iff.mp fine).1⟩

end Levels

theorem read_settled {tier : Level} {tokens : List Token} {reading : Reading}
    (descent : Descent ⟨.strict, implicit⟩ total (.level tier tokens) reading) (fine : reading.fault = none) :
    ∃ read, Nonempty (Derivation implicit (.level tier) read) ∧ tokens = read ++ reading.rest ∧
      ∀ token tail, reading.rest = token :: tail → ∀ total more,
        Descent ⟨.strict, implicit⟩ total (.level tier (read ++ token :: more))
          ⟨reading.tree, none, token :: more⟩ := by
  obtain ⟨ts, derivation, source, -⟩ := sourced_of_descent descent fine
  obtain ⟨read, split, again⟩ := settled_of_descent descent fine
  obtain rfl : ts = read := List.append_cancel_right (source.symm.trans split)
  exact ⟨ts, ⟨derivation⟩, split, again⟩

-- Behind an operator that stands between two parts, the fault is that of the second part.
theorem Blocked.beyond {inner outer : Level} {tokens rest : List Token} {left : Reading} {op : Token}
    (blocked : Blocked implicit total fault (.level outer rest))
    (before : Descent ⟨.strict, implicit⟩ total (.level inner tokens) left) (fine : left.fault = none)
    (next : left.rest = op :: rest)
    (derives : ∀ {ts us}, Derivation implicit (.level inner) ts → Derivation implicit (.level outer) us →
      Derivation implicit (.level outer) (ts ++ op :: us))
    (joins : Joins implicit inner outer op) : Blocked implicit total fault (.level outer tokens) := by
  obtain ⟨read, ⟨derivation⟩, split, again⟩ := read_settled before fine
  refine blocked.behind (read ++ [op]) (by simpa [Task.tokens, next] using split) ?_ fun total _ _ _ part _ second => ?_
  · rintro ts ⟨more⟩
    rw [List.append_assoc]
    exact ⟨derives derivation more⟩
  · rw [List.append_assoc]
    exact ⟨_, joins (again op rest next total _) rfl second, rfl⟩

theorem reads_derivation {tier : Level} {ts : List Token} (derivation : Derivation implicit (.level tier) ts)
    (total : Nat) : Descent ⟨.strict, implicit⟩ total (.level tier ts) ⟨derivation.tree, none, []⟩ := by
  have accepted : Accepted implicit total (.level tier) ts derivation.tree := derivation.accepted
  simpa using accepted [] (Level.stops_nil _)

-- Tokens that complete what was read.
def digit : Token := ⟨.real, some "0", 0⟩

def closer : Token := ⟨.rightParen, none, 0⟩

theorem Blocked.group {token : Token} {rest : List Token} (opens : token.kind = .leftParen)
    (blocked : Blocked implicit total fault (.level .sum rest)) :
    Blocked implicit total fault (.level .operand (token :: rest)) := by
  refine blocked.within [token] rfl ?_ fun first _ others _ fails total reading descent fine => ?_
  · rintro ts ⟨derivation⟩
    exact ⟨[closer], ⟨.group opens derivation rfl⟩⟩
  · obtain ⟨part, inner⟩ := Task.read ⟨.strict, implicit⟩ total (.level .sum (first :: others))
    rw [descent.unique (.group opens inner)] at fine
    obtain ⟨_, _, -, -, innerFine, -⟩ := close_fault_none fine
    exact fails total part inner innerFine

theorem blocked_unclosed {token : Token} {rest : List Token} {inner : Reading} (opens : token.kind = .leftParen)
    (descent : Descent ⟨.strict, implicit⟩ total (.level .sum rest) inner) (fine : inner.fault = none)
    (found : (inner.close .strict total).fault = some fault) :
    Blocked implicit total fault (.level .operand (token :: rest)) := by
  obtain ⟨read, ⟨derivation⟩, split, again⟩ := read_settled descent fine
  refine ⟨token :: read, inner.rest, congrArg (token :: ·) split, ?_,
    ⟨[closer], List.cons_ne_nil _ _, ⟨.group opens derivation rfl⟩⟩, fun last tail next more total reading whole => ?_⟩
  · cases next : inner.rest with
    | nil =>
        obtain rfl : Fault.unclosedAtEnd = fault := by simpa [Reading.close, Reading.fail, next, fine] using found
        rfl
    | cons last tail =>
        by_cases closes : last.kind = .rightParen
        · simp [Reading.close, next, closes, fine] at found
        · obtain rfl : .unclosed (total - inner.rest.length) last.offset = fault := by
            simpa [Reading.close, Reading.fail, next, fine, closes] using found
          simp [Fault.position?, next]
  · rw [whole.unique (.group opens (again last tail next total more))]
    intro closed
    obtain ⟨_, _, ⟨⟩, closes, -⟩ := close_fault_none closed
    simp [Reading.close, next, closes, fine] at found

theorem factor_exists {first : Token} (starts : first.kind.startsFactor = true) :
    ∃ ts, Nonempty (Derivation implicit (.level (implicit.level first.kind)) (first :: ts)) := by
  have call : ∃ ts, Nonempty (Derivation implicit (.level .call) (first :: ts)) ∧
      (first.kind.isFunction = false → Nonempty (Derivation implicit (.level .operand) (first :: ts))) := by
    rcases (Kind.starts_factor_iff _).mp starts with opens | named | named | function
    · have group : Derivation implicit (.level .operand) (first :: ([digit] ++ [closer])) :=
        .group opens (.product (.negation (.power (.quotient (.call (.operand (.literal (.inl rfl)))))))) rfl
      exact ⟨_, ⟨.operand group⟩, fun _ => ⟨group⟩⟩
    · exact ⟨[], ⟨.operand (.name (.inl named))⟩, fun _ => ⟨.name (.inl named)⟩⟩
    · exact ⟨[], ⟨.operand (.name (.inr named))⟩, fun _ => ⟨.name (.inr named)⟩⟩
    · exact ⟨[digit], ⟨.apply function (.operand (.literal (.inl rfl)))⟩,
        fun other => absurd function (Bool.eq_false_iff.mp other)⟩
  obtain ⟨ts, ⟨call⟩, operand⟩ := call
  refine ⟨ts, ?_⟩
  cases implicit with
  | exponent => exact ⟨.quotient (.call call)⟩
  | primary =>
      cases function : first.kind.isFunction with
      | true => simpa [ImplicitFactor.level, function] using ⟨call⟩
      | false => simpa [ImplicitFactor.level, function] using operand function

-- A token that starts a factor is never blamed for it: some factor goes on from there.
theorem Blocked.factor {left : Reading} {token : Token} {rest : List Token} (next : left.rest = token :: rest)
    (factor : token.kind.startsFactor = true)
    (blocked : Blocked implicit total fault (.level (implicit.level token.kind) (token :: rest))) :
    Blocked implicit total fault (.chain left) := by
  obtain ⟨read, spot, split, place, ⟨more, present, ⟨derivation⟩⟩, refused⟩ := blocked
  cases read with
  | nil =>
      obtain ⟨ts, ⟨known⟩⟩ := @factor_exists implicit token factor
      exact absurd rfl (refused token rest split.symm ts 0 _ (reads_derivation known 0))
  | cons first read =>
      obtain ⟨rfl, rest⟩ := List.cons.inj split
      refine ⟨token :: read, spot, next.trans split, place, ⟨more, present, .inl ?_⟩, fun last tail behind more => ?_⟩
      · obtain ⟨made, -⟩ := factor_of_level factor rfl derivation
        exact ⟨.last made⟩
      · intro total whole descent fine
        obtain ⟨part, inner⟩ := Task.read ⟨.strict, implicit⟩ total
          (.level (implicit.level token.kind) (token :: (read ++ last :: more)))
        obtain ⟨made, chained⟩ := Task.read ⟨.strict, implicit⟩ total
          (.chain (Reading.factor ⟨left.tree, none, token :: (read ++ last :: more)⟩ token.offset part))
        rw [descent.unique (.chainFactor rfl factor inner chained)] at fine
        exact refused last tail behind more total part inner (sourced_of_descent chained fine).1

-- Induction along the reading. The fault is that of the first part that has one; all parts before it were read
-- without fault, so they are derivations, and they are read the same whatever stands behind the blamed token.
theorem blocked_of_descent {task : Task} {reading : Reading}
    (descent : Descent ⟨.strict, implicit⟩ total task reading)
    (starts : task.Starts fun left => left.fault = none) (found : reading.fault = some fault) :
    Blocked implicit total fault task := by
  induction descent with
  | sumEnds _ _ first => exact (first trivial found).sum
  | sumGoesOn before next sign _ first second =>
      rcases Option.or_eq_some_iff.mp found with early | ⟨fine, late⟩
      · exact (first trivial early).sum
      · exact (second trivial late).beyond before fine next (fun left right => .sum left sign right)
          fun left next right => .sumGoesOn left next sign right
  | productEnds _ _ first => exact (first trivial found).product
  | productGoesOn before next sign _ first second =>
      rcases Option.or_eq_some_iff.mp found with early | ⟨fine, late⟩
      · exact (first trivial early).product
      · exact (second trivial late).beyond before fine next (fun left right => .times left sign right)
          fun left next right => .productGoesOn left next sign right
  | @productChains tokens rest left whole op before next factor chained first second =>
      cases early : left.fault with
      | some other =>
          obtain rfl : other = fault := Option.some.inj ((chained.keeps_fault early).symm.trans found)
          exact (first trivial early).product
      | none =>
          obtain ⟨read, ⟨derivation⟩, split, again⟩ := read_settled before early
          refine (second early found).behind read split ?_ fun total head _ others part same inner => ?_
          · rintro ts (⟨⟨factors⟩⟩ | ⟨sign, us, rfl, times, -, ⟨more⟩⟩)
            · exact ⟨.beside derivation factors⟩
            · exact ⟨.times derivation times more⟩
          · obtain ⟨rfl, -⟩ := List.cons.inj (next.symm.trans same)
            exact ⟨_, .productChains (again op rest next total others) rfl factor inner, rfl⟩
  | negationPasses ends _ first =>
      refine (first trivial found).loosen (fun _ => .power) fun total head _ _ reading same descent fine => ?_
      cases descent with
      | negationPasses _ first => exact ⟨_, first, fine⟩
      | negationGoesOn sign _ => exact absurd sign (ends head (head_of_cons same))
  | @negationGoesOn rest inner op sign _ first =>
      refine (first trivial found).behind [op] rfl ?_ fun total _ _ _ part _ inner => ?_
      · rintro ts ⟨inner⟩
        exact ⟨.negate sign inner⟩
      · exact ⟨_, .negationGoesOn sign inner, rfl⟩
  | powerEnds _ _ first => exact (first trivial found).power
  | powerGoesOn before next sign _ first second =>
      rcases Option.or_eq_some_iff.mp found with early | ⟨fine, late⟩
      · exact (first trivial early).power
      · exact (second trivial late).beyond before fine next (fun left right => .raise left sign right)
          fun left next right => .powerGoesOn left next sign right
  | quotientPasses ends _ first =>
      refine (first trivial found).loosen (fun _ => .call) fun total head _ _ reading same descent fine => ?_
      cases descent with
      | quotientPasses _ first => exact ⟨_, first, fine⟩
      | quotientGoesOn sign _ _ => exact absurd sign (ends head (head_of_cons same))
  | @quotientGoesOn rest numerator denominator op sign before _ first second =>
      rcases Option.or_eq_some_iff.mp found with early | ⟨fine, late⟩
      -- The denominator is not read yet: any operand completes the fraction.
      · refine (first trivial early).within [op] rfl ?_
          fun head behind others same fails total reading descent fine => ?_
        · rintro ts ⟨numerator⟩
          have whole : Derivation implicit (.level .quotient) (op :: (ts ++ [digit])) :=
            .divide sign numerator (.call (.operand (.literal (.inl rfl))))
          exact ⟨[digit], ⟨whole⟩⟩
        · cases descent with
          | quotientPasses ends _ => exact ends op rfl sign
          | quotientGoesOn _ first _ => exact fails total _ first (Option.or_eq_none_iff.mp fine).1
      · obtain ⟨read, ⟨derivation⟩, split, again⟩ := read_settled before fine
        refine (second trivial late).behind (op :: read) (congrArg (op :: ·) split) ?_
          fun total head behind others part same inner => ?_
        · rintro ts ⟨more⟩
          exact ⟨.divide sign derivation more⟩
        · exact ⟨_, .quotientGoesOn sign (again head behind same total others) inner, rfl⟩
  | callPasses ends _ first =>
      refine (first trivial found).loosen (fun _ => .operand) fun total head _ _ reading same descent fine => ?_
      cases descent with
      | callPasses _ first => exact ⟨_, first, fine⟩
      | callGoesOn function _ => exact absurd function (Bool.eq_false_iff.mp (ends head (head_of_cons same)))
  | @callGoesOn rest inner op function _ first =>
      refine (first trivial found).behind [op] rfl ?_ fun total _ _ _ part _ inner => ?_
      · rintro ts ⟨inner⟩
        exact ⟨.apply function inner⟩
      · exact ⟨_, .callGoesOn function inner, rfl⟩
  | literal _ => cases found
  | symbol _ => cases found
  | @group rest inner token opens before first =>
      cases early : inner.fault with
      | some other =>
          obtain rfl : other = fault := Option.some.inj ((close_keeps_fault early).symm.trans found)
          exact (first trivial early).group opens
      | none => exact blocked_unclosed opens before early found
  | missing =>
      obtain rfl := Option.some.inj found
      exact ⟨[], [], rfl, rfl, ⟨[digit], by simp, ⟨.literal (.inl rfl)⟩⟩, fun _ _ next => nomatch next⟩
  | @misplaced rest token ends =>
      obtain rfl := Option.some.inj found
      refine ⟨[], token :: rest, rfl, rfl, ⟨[digit], by simp, ⟨.literal (.inl rfl)⟩⟩, ?_⟩
      rintro _ _ ⟨⟩ more total reading descent
      rw [descent.unique (.misplaced ends)]
      exact Option.some_ne_none _
  | chainEnds _ => cases starts.symm.trans found
  | @chainFactor left right whole token rest next factor before chained first second =>
      have joined : (left.factor token.offset right).fault = right.fault := by
        rw [Reading.factor, Reading.binary, starts, Option.none_or]
      cases early : right.fault with
      | some other =>
          obtain rfl : other = fault :=
            Option.some.inj ((chained.keeps_fault (joined.trans early)).symm.trans found)
          exact (first trivial early).factor next factor
      | none =>
          obtain ⟨read, ⟨derivation⟩, split, again⟩ := read_settled before early
          obtain ⟨_, ts, rfl, -⟩ := derivation.first
          obtain ⟨rfl, -⟩ := List.cons.inj split
          obtain ⟨made, -⟩ := factor_of_level factor rfl derivation
          refine (second (joined.trans early) found).behind (token :: ts) (next.trans split) ?_
            fun total head behind others part same inner => ?_
          · rintro us (⟨⟨factors⟩⟩ | ⟨sign, us, rfl, times, exponent, ⟨more⟩⟩)
            · exact .inl ⟨.next made factors⟩
            · exact .inl ⟨.lastTimes exponent made times more⟩
          · exact ⟨_, .chainFactor rfl factor (again head behind same total others) inner, rfl⟩
  | @chainGoesOn left right op rest next exponent sign _ second =>
      rcases Option.or_eq_some_iff.mp found with early | ⟨-, late⟩
      · cases starts.symm.trans early
      · refine (second trivial late).behind [op] next ?_ fun total _ _ _ part _ inner => ?_
        · intro ts derives
          exact .inr ⟨op, ts, rfl, sign, exponent, derives⟩
        · exact ⟨_, .chainGoesOn rfl exponent sign inner, rfl⟩

end Formula

end EscapeTime
