import LineShell.Proofs.Outcome
import LineShell.Proofs.Pattern.Reading

namespace LineShell.Pattern

namespace Reading

variable {α : Type} {t : Text}

section

variable {seq : Mode → Bool → Bool → Reading (List Node)}

end

end Reading

end LineShell.Pattern
