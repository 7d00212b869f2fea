/-!
# Pages

The pages of the admin area and the permissions of which one opens each page.  A page outside the
table is open to everyone.
-/

namespace AdminGate

/-- The permissions that open each page, in the order of the menu. -/
def pageTable : List (String × List String) := [
  ("dashboard", ["dashboard:view"]),
  ("products", ["product:view"]),
  ("categories", ["category:view"]),
  ("coupons", ["coupon:view"]),
  ("orders", ["order:view"]),
  ("users", ["user:view", "admin:view", "role:view"]),
  ("support", ["support:view"]),
  ("content", ["announcement:view", "faq:view", "knowledge:view", "review:view"]),
  ("system", ["log:view", "backup:view", "stats:view", "monitor:view"]),
  ("config", ["settings:view", "settings:payment", "settings:email", "settings:database"])]

/-- The pages of the table in its order. -/
def pageKeys : List String :=
  pageTable.map Prod.fst

/-- The permissions that open a page, none for a page outside the table. -/
def pagePermissions (page : String) : List String :=
  (pageTable.lookup page).getD []

/-- Whether someone with these permissions may open a page. -/
def mayOpenPage (page : String) (permissions : List String) (isSuperAdmin : Bool) : Bool :=
  isSuperAdmin ||
    (pagePermissions page).isEmpty ||
    (pagePermissions page).any fun permission => permissions.contains permission

end AdminGate
