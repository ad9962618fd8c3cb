import AiGovernance.Semantics.Trace

/-!
# What a program has done when it ends

`Obeys` is a rule on the commands a program issues. `Honours` adds what its log
holds when it returns or raises, so that a rule such as "what was begun is
followed up next" also says that nothing is left open at the end.
-/

namespace AiGovernance.Semantics

variable {I : Interface} {S Call α β : Type}

/-- Whatever its commands find, the rule allows each after those before it, and the log meets `post` at the end. -/
def Honours (handler : Handler I S) (rule : CommandLog I S → I.Command → Prop)
    (post : CommandLog I S → Except I.Exception α → Prop) : Program I α → CommandLog I S → Prop
  | .done value, log => post log (.ok value)
  | .raise exception, log => post log (.error exception)
  | .perform command next, log =>
    rule log command ∧
      ∀ state, Honours handler rule post (next (handler command state).1) (log ++ [(state, command)])

section Honours

variable {handler : Handler I S} {rule : CommandLog I S → I.Command → Prop} {log : CommandLog I S}

variable {post : CommandLog I S → Except I.Exception α → Prop} {program : Program I α}

theorem Honours.mono {weaker : CommandLog I S → Except I.Exception α → Prop}
    (honours : Honours handler rule post program log) (implies : ∀ log result, post log result → weaker log result) :
    Honours handler rule weaker program log := by
  induction program generalizing log with
  | done value => exact implies _ _ honours
  | raise exception => exact implies _ _ honours
  | perform command next ih =>
    exact ⟨honours.1, fun state => ih _ (honours.2 state)⟩

theorem honours_ofExcept {result : Except I.Exception α} (meets : post log result) :
    Honours handler rule post (Program.ofExcept result) log := by
  cases result <;> exact meets

theorem honours_bind {post : CommandLog I S → Except I.Exception β → Prop} {next : α → Program I β}
    (first : Honours handler rule (fun log result =>
      match result with
      | .ok value => Honours handler rule post (next value) log
      | .error exception => post log (.error exception)) program log) :
    Honours handler rule post (program >>= next) log := by
  induction program generalizing log with
  | done value => exact first
  | raise exception => exact first
  | perform command rest ih =>
    exact ⟨first.1, fun state => ih _ (first.2 state)⟩

theorem honours_call_bind {post : CommandLog I S → Except I.Exception β → Prop} {command : I.Command}
    {next : I.Answer command → Program I β} (allowed : rule log command)
    (answered : ∀ state answer, (handler command state).1 = .ok answer →
      Honours handler rule post (next answer) (log ++ [(state, command)]))
    (raised : ∀ state exception, (handler command state).1 = .error exception →
      post (log ++ [(state, command)]) (.error exception)) :
    Honours handler rule post (Program.call command >>= next) log := by
  refine ⟨allowed, fun state => ?_⟩
  cases outcome : (handler command state).1 with
  | ok answer => exact answered state answer outcome
  | error exception => exact raised state exception outcome

namespace Pool

theorem honours_of_reaches {pool : Pool I S Call α} (rules : Call → CommandLog I S → I.Command → Prop)
    (post : Call → CommandLog I S → Except I.Exception α → Prop)
    (entering : ∀ call, pool.offered call → Honours pool.handler (rules call) (post call) (pool.body call) [])
    {start final : Config I S Call α} (reaches : pool.Reaches start final) (unstarted : start.threads = []) :
    ∀ thread ∈ final.threads,
      Honours pool.handler (rules thread.call) (post thread.call) thread.program thread.log := by
  refine threads_of_reaches (fun call => Honours pool.handler (rules call) (post call)) entering ?_ reaches ?_
  · exact fun state honours => honours.2 state
  · simp [unstarted]

end Pool

end Honours

end AiGovernance.Semantics
