import RecordFilter.Proofs.Composer.Order

set_option autoImplicit false

namespace RecordFilter

namespace Settings

def adjustments (settings : Settings) : List Adjustment := [.join settings.join]

end Settings

namespace Settings

variable (settings : Settings) (path : Path)

end Settings

example : (Composer.accept {} (.like ⟨["name"]⟩ (some "  ") [.minChars 0])).predicates = [] := by decide

end RecordFilter
