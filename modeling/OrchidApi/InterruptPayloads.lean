import Mathlib.Data.List.Forall2
import OrchidApi.Helpers

/-! Which payloads of a `GraphInterrupt` become an `InterruptResponse`, and which raise on the way. -/
namespace OrchidApi
open Text

end OrchidApi
