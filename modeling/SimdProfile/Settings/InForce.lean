import SimdProfile.Settings

/-!
# Settings in force

One value of the settings is in force for a whole process. Only valid settings replace it, and they
replace it as a whole.
-/

namespace SimdProfile.Settings

/-- The settings in force after an attempt to replace them. -/
def replace (inForce s : Settings) : Settings × Except Error Unit :=
  match s.validate with
  | .ok () => (s, .ok ())
  | .error e => (inForce, .error e)

end SimdProfile.Settings
