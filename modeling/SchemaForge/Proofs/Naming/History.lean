import Mathlib.Data.List.DropRight
import Mathlib.Data.List.ReduceOption
import SchemaForge.Proofs.Naming.Numbered

/-! Names over a whole history, in which domains take turns and counts are forgotten now and then.
The number in a name is how often its domain was asked for the token since the last reset. So what
other domains are asked leaves no trace, and neither does anything before a reset. -/

namespace SchemaForge.UniqueNames

variable {names : UniqueNames} {domain token : String}

/-- What names are used for: all counts are forgotten, or a domain asks for the name of a token. -/
inductive Step where
  | reset
  | ask (domain token affix : String)
deriving DecidableEq

/-- What a step answers, and what it leaves; a reset has no answer. -/
def step (names : UniqueNames) : Step → Option String × UniqueNames
  | .reset => (none, reset)
  | .ask domain token affix =>
    let (name, names) := names.next domain token affix
    (some name, names)

def answers (names : UniqueNames) : List Step → List (Option String)
  | [] => []
  | s :: rest => (names.step s).1 :: (names.step s).2.answers rest

def after (names : UniqueNames) : List Step → UniqueNames
  | [] => names
  | s :: rest => (names.step s).2.after rest

section Histories

theorem answers_append (names : UniqueNames) (first second : List Step) :
    names.answers (first ++ second) =
      names.answers first ++ (names.after first).answers second := by
  induction first generalizing names with
  | nil => rfl
  | cons s rest ih => rw [List.cons_append, answers, ih, answers, after, List.cons_append]

theorem after_append (names : UniqueNames) (first second : List Step) :
    names.after (first ++ second) = (names.after first).after second := by
  induction first generalizing names with
  | nil => rfl
  | cons s rest ih => rw [List.cons_append, after, ih, after]

theorem getElem?_answers (names : UniqueNames) (steps : List Step) (i : Nat) :
    (names.answers steps)[i]? = steps[i]?.map fun s => ((names.after (steps.take i)).step s).1 := by
  induction steps generalizing names i with
  | nil => rfl
  | cons s rest ih =>
    cases i with
    | zero => rfl
    | succ i =>
      rw [answers, List.getElem?_cons_succ, List.getElem?_cons_succ, ih, List.take_succ_cons, after]

end Histories

section Counting

def Step.asksFor (domain token : String) : Step → Bool
  | reset => false
  | ask other asked _ => other = domain && adjust asked = adjust token

def sinceReset (steps : List Step) : List Step :=
  steps.rtakeWhile (· ≠ .reset)

def asked (steps : List Step) (domain token : String) : Nat :=
  (sinceReset steps).countP (Step.asksFor domain token)

theorem asked_concat_reset (steps : List Step) : asked (steps ++ [.reset]) domain token = 0 := by
  simp [asked, sinceReset]

theorem asked_concat_ask (steps : List Step) (other asked' affix : String) :
    asked (steps ++ [.ask other asked' affix]) domain token =
      asked steps domain token +
        if (Step.ask other asked' affix).asksFor domain token then 1 else 0 := by
  rw [asked, sinceReset, List.rtakeWhile_concat_pos _ _ _ (by simp), List.countP_append,
    List.countP_singleton]
  rfl

theorem count_ask (names : UniqueNames) (other asked affix : String) :
    (names.step (.ask other asked affix)).2.count domain token =
      names.count domain token +
        if (Step.ask other asked affix).asksFor domain token then 1 else 0 := by
  by_cases hdomain : other = domain
  · subst hdomain
    rw [step, count_next]
    simp [Step.asksFor]
  · have hkey : (domain, adjust token) ≠ (other, adjust asked) := fun h =>
      hdomain (Prod.mk.inj h).1.symm
    simp only [step, next, count, lookup_bump_of_ne hkey, Step.asksFor, hdomain, decide_false,
      Bool.false_and, Bool.false_eq_true, if_false, Nat.add_zero]

/-- The induction is on the last step: it adds one, or nothing, or takes all away. -/
theorem count_after (steps : List Step) (domain token : String) :
    (after {} steps).count domain token = asked steps domain token := by
  induction steps using List.reverseRecOn with
  | nil => rfl
  | append_singleton steps s ih =>
    rw [after_append, after, after]
    cases s with
    | reset => rw [asked_concat_reset]; rfl
    | ask other token' affix => rw [count_ask, ih, asked_concat_ask]

theorem next_after (steps : List Step) (domain token affix : String) :
    ((after {} steps).next domain token affix).1 =
      affix ++ adjust token ++ toString (asked steps domain token) ++ affix := by
  rw [next, count_after]

end Counting

section Domains

def Step.concerns (domain : String) : Step → Bool
  | reset => true
  | ask other _ _ => other = domain

def received (domain : String) (names : UniqueNames) : List Step → List String
  | [] => []
  | s :: rest =>
    (if s.concerns domain then (names.step s).1.toList else []) ++
      (names.step s).2.received domain rest

theorem asked_own (steps : List Step) (domain token : String) :
    asked ((sinceReset steps).filter (Step.concerns domain)) domain token =
      asked steps domain token := by
  have hall : sinceReset ((sinceReset steps).filter (Step.concerns domain)) =
      (sinceReset steps).filter (Step.concerns domain) := by
    refine List.rtakeWhile_eq_self_iff.mpr fun s hs => ?_
    exact List.mem_rtakeWhile_imp (p := (· ≠ .reset)) (l := steps) (List.mem_filter.mp hs).1
  rw [asked, hall, List.countP_filter, asked]
  apply List.countP_congr
  intro s _
  cases s with
  | reset => simp [Step.asksFor]
  | ask other token' affix => simp +contextual [Step.asksFor, Step.concerns]

theorem received_eq_of_count {names' : UniqueNames}
    (h : ∀ token, names.count domain token = names'.count domain token) (steps : List Step) :
    received domain names steps =
      (names'.answers (steps.filter (Step.concerns domain))).reduceOption := by
  induction steps generalizing names names' with
  | nil => rfl
  | cons s rest ih =>
    cases hconcerns : s.concerns domain with
    | true =>
      rw [received, hconcerns, if_pos rfl, List.filter_cons_of_pos hconcerns, answers]
      cases s with
      | reset =>
        rw [step, step, List.reduceOption_cons_of_none, ih fun _ => rfl]
        rfl
      | ask other token affix =>
        obtain rfl : other = domain := of_decide_eq_true hconcerns
        have hname : (names.step (.ask other token affix)).1 =
            some (names'.next other token affix).1 := by
          simp only [step, next, h token]
        have hafter : ∀ t, (names.step (.ask other token affix)).2.count other t =
            (names'.step (.ask other token affix)).2.count other t := by
          intro t
          rw [count_ask, count_ask, h t]
        rw [hname, ih hafter]
        exact (List.reduceOption_cons_of_some _ _).symm
    | false =>
      rw [received, hconcerns, if_neg Bool.false_ne_true,
        List.filter_cons_of_neg (by simp [hconcerns]), List.nil_append]
      cases s with
      | reset => cases hconcerns
      | ask other token affix =>
        have hother : other ≠ domain := of_decide_eq_false hconcerns
        apply ih
        intro t
        rw [count_ask, Step.asksFor, h t]
        simp [hother]

end Domains

theorem toList_adjust (token : String) : (adjust token).toList =
    (token.toList.take 1).flatMap Text.lower ++ token.toList.drop 1 := by
  unfold adjust
  cases token.toList with
  | nil => rfl
  | cons c rest => simp

/-- In every history, a name is its token with the first character in lower case, between two
affixes and with the number of times that its domain was asked for this token since the last reset.
So a name depends only on the steps of its domain since then, a domain receives the names that it
would if it were the only one, and after a reset all names are given out as if it were the start. -/
theorem answers_by_history :
    (∀ token : String, (adjust token).toList =
      (token.toList.take 1).flatMap Text.lower ++ token.toList.drop 1) ∧
    (∀ (steps : List Step) (i : Nat), (answers {} steps)[i]? = steps[i]?.map fun s =>
      match s with
      | .reset => none
      | .ask domain token affix => some (affix ++ adjust token ++
          toString (asked (steps.take i) domain token) ++ affix)) ∧
    (∀ (steps : List Step) (domain token affix : String),
      ((after {} steps).next domain token affix).1 =
        ((after {} ((sinceReset steps).filter (Step.concerns domain))).next domain token affix).1) ∧
    (∀ (domain : String) (steps : List Step), received domain {} steps =
      (answers {} (steps.filter (Step.concerns domain))).reduceOption) ∧
    ∀ before later : List Step, answers {} (before ++ .reset :: later) =
      answers {} before ++ none :: answers {} later := by
  refine ⟨toList_adjust, fun steps i => ?_, fun steps domain token affix => ?_,
    fun domain => received_eq_of_count fun _ => rfl,
    fun before later => answers_append {} before (.reset :: later)⟩
  · rw [getElem?_answers]
    congr 1
    funext s
    cases s with
    | reset => rfl
    | ask domain token affix => exact congrArg some (next_after _ domain token affix)
  · rw [next_after, next_after, asked_own]

example : answers {} [.ask "c" "Foo" "_", .ask "cpp" "foo" "_", .ask "c" "foo" "_", .reset,
    .ask "c" "foo" "_"] = [some "_foo0_", some "_foo0_", some "_foo1_", none, some "_foo0_"] := by
  decide +kernel

end SchemaForge.UniqueNames
