import ObjectQuery.Proofs.Compiler.Fault
import ObjectQuery.Proofs.Execution.Protocol

/-! Execution of a query whose rows cannot be fetched. The store is asked for nothing, unless its
entities are counted first and counting has no part in what is wrong with it. -/

namespace ObjectQuery

namespace Compiler

variable {c : Compiler} {names : Conventions} {q : Query} {e : CompileError}

end Compiler

namespace Service

variable {s : Service} {q : Query} {e : CompileError}

section

variable {σ : Type} (answer : (question : Fetch) → σ → question.Answer × σ) (state : σ)

end

end Service

end ObjectQuery
