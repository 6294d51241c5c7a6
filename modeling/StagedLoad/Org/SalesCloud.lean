import StagedLoad.Org.Schema

/-!
# The standard objects of a sales org

Nine standard objects with the fields that matter for lookups: which fields there are, and which
objects they refer to.
-/

namespace StagedLoad.SalesCloud

def plain (names : List String) : List Field := names.map fun n => { name := n }

def lookup (name : String) (references : List String) : Field :=
  { name := name, references := references }

def systemFields : List Field :=
  [{ name := "Id" }, lookup "CreatedById" ["User"], { name := "CreatedDate" },
    lookup "LastModifiedById" ["User"], { name := "LastModifiedDate" }, { name := "IsDeleted" }]

/-- the owner of a record that a queue may own -/
def owner : Field := lookup "OwnerId" ["User", "Group"]

def recordType : Field := lookup "RecordTypeId" ["RecordType"]

def object (name : String) (fields : List Field) : OrgObject :=
  .ofFields name (systemFields ++ fields)

def user : OrgObject := object "User" <|
  plain ["Username", "FirstName", "LastName", "Email", "IsActive"] ++ [lookup "ManagerId" ["User"]]

def recordTypeObject : OrgObject := object "RecordType" <|
  plain ["Name", "DeveloperName", "SobjectType", "IsActive"]

def account : OrgObject := object "Account" <|
  [owner, recordType] ++
  plain ["Name", "AccountNumber", "Type", "Industry", "AnnualRevenue", "NumberOfEmployees",
    "Phone", "Website", "BillingCity", "BillingCountry", "IsPersonAccount"] ++
  [lookup "ParentId" ["Account"]]

def contact : OrgObject := object "Contact" <|
  [owner, recordType] ++
  plain ["FirstName", "LastName", "Email", "Phone", "Title", "IsPersonAccount"] ++
  [lookup "AccountId" ["Account"], lookup "ReportsToId" ["Contact"]]

def lead : OrgObject := object "Lead" <|
  [owner] ++ plain ["FirstName", "LastName", "Company", "Status", "Email"] ++
  [lookup "ConvertedAccountId" ["Account"], lookup "ConvertedContactId" ["Contact"]]

def opportunity : OrgObject := object "Opportunity" <|
  [owner, recordType] ++ plain ["Name", "Amount", "StageName", "CloseDate"] ++
  [lookup "AccountId" ["Account"], lookup "CampaignId" ["Campaign"]]

def campaign : OrgObject := object "Campaign" <|
  [owner] ++ plain ["Name", "Type", "Status", "StartDate"] ++ [lookup "ParentId" ["Campaign"]]

def supportCase : OrgObject := object "Case" <|
  [owner, recordType] ++ plain ["Subject", "Status", "Priority", "Origin"] ++
  [lookup "AccountId" ["Account"], lookup "ContactId" ["Contact"], lookup "ParentId" ["Case"]]

def task : OrgObject := object "Task" <|
  [owner] ++ plain ["Subject", "Status", "ActivityDate"] ++
  [lookup "WhatId" ["Account", "Opportunity", "Case", "Campaign"],
    lookup "WhoId" ["Contact", "Lead"]]

def schema : Schema :=
  .ofObjects
    [user, recordTypeObject, account, contact, lead, opportunity, campaign, supportCase, task]

end StagedLoad.SalesCloud
