/-!
The addresses of devices on the line.
-/
namespace MeterPolling.Device

/-- The valid addresses, ends included. -/
def first : Int := 1
def last : Int := 247

def isValid (address : Int) : Bool := first ≤ address && address ≤ last

end MeterPolling.Device
