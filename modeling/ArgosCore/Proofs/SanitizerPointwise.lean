import ArgosCore.Proofs.SanitizerInPlace

/-! What a policy with one rule for each path releases, place by place, and which of its
rules leave a trace. -/

namespace ArgosCore.Proofs

section
variable [Runtime]

end

end ArgosCore.Proofs
