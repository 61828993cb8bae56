import Retouch.Config

/-! Built-in rule sets. -/
namespace Retouch.Preset

def ofLines (lines : List String) : Bytes := ([0x0A] : Bytes).intercalate (lines.map Bytes.ofString)

def listingsTarget : Bytes := "backend/src/routes/listings.rs"

def hostListingsSearch : Bytes := ofLines [
  "",
  "let mut out: Vec<ListingWithDetails> = Vec::with_capacity(listings.len());",
  "for l in listings \x7b",
  "    let sid = l.id.clone();",
  "    let safety_items: Vec<String> = l",
  "        .safety_devices",
  "        .as_ref()",
  "        .and_then(|s| serde_json::from_str(s).ok())",
  "        .unwrap_or_default();",
  "    out.push(ListingWithDetails \x7b",
  "        listing: l,",
  "        amenities: Vec::new(),",
  "        photos: photos_map.remove(&sid).unwrap_or_default(),",
  "        videos: Vec::new(),",
  "        safety_items,",
  "        unavailable_dates: Vec::new(),",
  "        contact_phone: contact_phone.clone(),",
  "        host_avatar: host_avatar.clone(),",
  "        host_username: None,",
  "    \x7d);",
  "\x7d"]

/-- The loop that collects the listings of a host for the marketplace. -/
def hostListingsReplacement : Bytes := ofLines [
  "let mut out: Vec<MarketplaceListing> = Vec::with_capacity(listings.len());",
  "    for l in listings \x7b",
  "        let sid = l.id.clone();",
  "        out.push(MarketplaceListing \x7b",
  "            listing: MarketplaceListingInner \x7b",
  "                id: l.id,",
  "                host_id,",
  "                title: l.title,",
  "                city: l.city,",
  "                price_per_night: l.price_per_night,",
  "                currency: l.currency,",
  "                property_type: l.property_type,",
  "            \x7d,",
  "            photos: photos_map.remove(&sid).unwrap_or_default(),",
  "            host_avatar: host_avatar.clone(),",
  "            host_username: None,",
  "        \x7d);",
  "    \x7d"]

/-- The loop that collects the listings of the user in full, without the fields of a profile. -/
def myListingsSearch : Bytes := ofLines [
  "",
  "let mut out: Vec<ListingWithDetails> = Vec::with_capacity(listings.len());",
  "for l in listings \x7b",
  "    let sid = l.id.clone();",
  "    let safety_items: Vec<String> = l",
  "        .safety_devices",
  "        .as_ref()",
  "        .and_then(|s| serde_json::from_str(s).ok())",
  "        .unwrap_or_default();",
  "    out.push(ListingWithDetails \x7b",
  "        listing: l,",
  "        amenities: Vec::new(),",
  "        photos: photos_map.remove(&sid).unwrap_or_default(),",
  "        videos: Vec::new(),",
  "        safety_items,",
  "        unavailable_dates: Vec::new(),",
  "        contact_phone: None,",
  "        host_avatar: None,",
  "        host_username: None,",
  "    \x7d);",
  "\x7d"]

/-- The loop that collects the listings of the user for the marketplace. -/
def myListingsReplacement : Bytes := ofLines [
  "let mut out: Vec<MarketplaceListing> = Vec::with_capacity(listings.len());",
  "    for l in listings \x7b",
  "        let sid = l.id.clone();",
  "        out.push(MarketplaceListing \x7b",
  "            listing: MarketplaceListingInner \x7b",
  "                id: l.id,",
  "                host_id: user_id,",
  "                title: l.title,",
  "                city: l.city,",
  "                price_per_night: l.price_per_night,",
  "                currency: l.currency,",
  "                property_type: l.property_type,",
  "            \x7d,",
  "            photos: photos_map.remove(&sid).unwrap_or_default(),",
  "            host_avatar: None,",
  "            host_username: None,",
  "        \x7d);",
  "    \x7d"]

def listings : Config where
  target := listingsTarget
  backup := false
  backupSuffix := []
  strict := false
  location := []
  rules := [
    ⟨"host_listings", "whitespace", hostListingsSearch, hostListingsReplacement, "**/*.rs"⟩,
    ⟨"my_listings", "whitespace", myListingsSearch, myListingsReplacement, "**/*.rs"⟩]

/-- All presets by name, in alphabetical order. -/
def all : List (String × Config) := [("listings", listings)]

def names : List String := all.map (·.1)

/-- The preset that is used when none is named. -/
def defaultName : String := "listings"

def get? (name : Bytes) : Option Config :=
  (all.find? fun p => Bytes.ofString p.1 == name).map (·.2)

/-- What is said of a name that is no preset. -/
def unknownMessage (name : Bytes) : Bytes :=
  "unknown preset " ++ name.quoted ++ " (have ["
    ++ ([0x20] : Bytes).intercalate (names.map Bytes.ofString) ++ "])"

end Retouch.Preset
